import MediaScanMonitor.Lib.Normpath
import MediaScanMonitor.Pipeline.Router

/-!
# What the router does, on components

The router works on the texts of paths: a slice, a split at the separators and a prefix with one at its
end. On paths that are written as their components it selects the routes by component lists, but for
the empty text in front of a path, which counts as a directory, and for the library without an id,
which is the one with the id `None`.
-/

namespace MediaScanMonitor
open Text PosixPath

/-- An absolute path that is written as its components. -/
def Canonical (path : Str) : Prop :=
  ∃ p : List Name, path = render p

/-- The components of a path. -/
def components (path : Str) : List Name :=
  (resolve path).getD []

/-- The route selects the event, by components. -/
def Selected (lower : Str → Str) (config : RuntimeConfig) (event : FsEvent) (r : FolderRoute) : Prop :=
  components r.path <+: components event.path ∧
    (∀ n ∈ components event.path, n.val ∉ config.ignoreDirs) ∧
      extensionMatches lower event.path r.extensions = true ∧ event.eventType ∈ r.eventTypes

/-- What is to be scanned for a path below a root, and the folder right below the root. -/
inductive Target (root path : Str) : Str → Option Str → Prop
  /-- The path is the root or lies directly in it. -/
  | direct (below : List Name) : components path = components root ++ below → below.length ≤ 1 →
      Target root path root none
  | inside (n m : Name) (below : List Name) :
      components path = components root ++ n :: m :: below →
      Target root path (render (components root ++ [n])) (some n.val)

/-- The request of a route for an event. -/
structure RequestOf (event : FsEvent) (r : FolderRoute) (req : ScanRequest) : Prop where
  serverId : req.serverId = r.serverId
  serverName : req.serverName = r.serverName
  scanMode : req.scanMode = r.scanMode
  libraryId : req.libraryId = r.libraryId
  eventType : req.eventType = event.eventType
  filePath : req.filePath = event.path
  targeted : r.scanMode = .targeted → req.scanPath = some req.scanKey ∧
    Target r.path event.path req.scanKey req.topFolder ∧
      components req.scanKey <+: components event.path
  library : r.scanMode = .library → req.scanPath = none ∧ req.topFolder = none

instance (lower : Str → Str) (config : RuntimeConfig) (event : FsEvent) :
    DecidablePred (Selected lower config event) := fun r =>
  inferInstanceAs (Decidable (components r.path <+: components event.path ∧
    (∀ n ∈ components event.path, n.val ∉ config.ignoreDirs) ∧
      extensionMatches lower event.path r.extensions = true ∧ event.eventType ∈ r.eventTypes))

/-- The event yields one request for each route that selects it, in order, and the requests of a
server for libraries share a key when their library is the same. -/
structure RoutedBySpec (lower : Str → Str) (config : RuntimeConfig) (event event' : FsEvent) :
    Prop where
  requests : List.Forall₂ (RequestOf event) (config.routes.filter (Selected lower config event))
    (route lower event config)
  keys : ∀ req ∈ route lower event config, ∀ req' ∈ route lower event' config,
    req.serverId = req'.serverId → req.scanMode = .library → req'.scanMode = .library →
      (req.scanKey = req'.scanKey ↔ req.libraryId = req'.libraryId)

/-- One of the ids is absent, and the other one is the text that is shown for it. -/
def Confused (libraryId libraryId' : Option Str) : Prop :=
  libraryId = none ∧ libraryId' = some (showOption none) ∨
    libraryId = some (showOption none) ∧ libraryId' = none

/-- No directory without a name is ignored while a route selects the event, and no two routes of one
server that select the events are for confused libraries. -/
def Distinct (lower : Str → Str) (config : RuntimeConfig) (event event' : FsEvent) : Prop :=
  ([] ∈ config.ignoreDirs → ∀ r ∈ config.routes, ¬Selected lower config event r) ∧
    ∀ r ∈ config.routes, ∀ r' ∈ config.routes, Selected lower config event r →
      Selected lower config event' r' → r.serverId = r'.serverId → r.scanMode = .library →
        r'.scanMode = .library → ¬Confused r.libraryId r'.libraryId

instance (libraryId libraryId' : Option Str) : Decidable (Confused libraryId libraryId') :=
  inferInstanceAs (Decidable (libraryId = none ∧ libraryId' = some (showOption none) ∨
    libraryId = some (showOption none) ∧ libraryId' = none))

instance (lower : Str → Str) (config : RuntimeConfig) (event event' : FsEvent) :
    Decidable (Distinct lower config event event') :=
  inferInstanceAs (Decidable (
    ([] ∈ config.ignoreDirs → ∀ r ∈ config.routes, ¬Selected lower config event r) ∧
      ∀ r ∈ config.routes, ∀ r' ∈ config.routes, Selected lower config event r →
        Selected lower config event' r' → r.serverId = r'.serverId → r.scanMode = .library →
          r'.scanMode = .library → ¬Confused r.libraryId r'.libraryId))

variable {lower : Str → Str} {config : RuntimeConfig} {r r' : FolderRoute} {event event' : FsEvent}
  {req : ScanRequest} {p q below : List Name}

@[simp] lemma components_render (p : List Name) : components (render p) = p := by
  rw [components, resolve_render]
  rfl

/-! ### The text operations on rendered paths -/

lemma isPathPrefix_render : isPathPrefix (render q) (render p) = true ↔ q <+: p := by
  rw [isPathPrefix, Bool.or_eq_true, beq_iff_eq, render_inj]
  cases q with
  | nil =>
    have hend : endsWithChar (render []) '/' = true := rfl
    rw [if_pos hend]
    exact iff_of_true (.inr (isabs_render p)) List.nil_prefix
  | cons n q =>
    have hend : endsWithChar (render (n :: q)) '/' = false := endsWithChar_render (by simp)
    rw [hend, if_neg Bool.false_ne_true, startsWith_render (by simp)]
    constructor
    · rintro (rfl | ⟨h, -⟩)
      · exact List.prefix_rfl
      · exact h
    · intro h
      by_cases he : p = n :: q
      · exact .inl he
      · exact .inr ⟨h, fun e => he e.symm⟩

/-- The first segment of an absolute path is empty. -/
lemma isIgnored_render {ignoreDirs : List Str} : isIgnored (render p) ignoreDirs = true ↔
    [] ∈ ignoreDirs ∨ ∃ n ∈ p, n.val ∈ ignoreDirs := by
  rw [isIgnored_eq, List.any_eq_true]
  cases p with
  | nil => simp
  | cons n p =>
    rw [split_render (by simp)]
    simp

/-- Names that are joined begin with no separator. -/
lemma lstrip_intercalate (below : List Name) :
    lstripChar ([sep].intercalate (below.map Name.val)) '/' =
      [sep].intercalate (below.map Name.val) := by
  cases below with
  | nil => rfl
  | cons n below =>
    obtain ⟨c, cs, hn⟩ := List.exists_cons_of_ne_nil n.ne_nil
    have hc : ¬(c == '/') = true := by
      intro h
      apply n.sep_notMem
      rw [hn, beq_iff_eq.1 h]
      exact List.mem_cons_self
    have hhead : ∃ rest, [sep].intercalate ((n :: below).map Name.val) = c :: rest := by
      rw [List.map_cons, hn]
      cases below with
      | nil => exact ⟨cs, List.intercalate_singleton⟩
      | cons m below => exact ⟨_, List.intercalate_cons_cons⟩
    obtain ⟨rest, hrest⟩ := hhead
    rw [hrest]
    exact List.dropWhile_cons_of_neg hc

lemma lstrip_sep (s : Str) : lstripChar (sep :: s) '/' = lstripChar s '/' :=
  List.dropWhile_cons_of_pos rfl

/-- What is left of a path behind a root, and behind whatever stands in front of both. -/
lemma relative_render (front : Str) (q below : List Name) :
    lstripChar ((front ++ render (q ++ below)).drop (front ++ render q).length) '/' =
      [sep].intercalate (below.map Name.val) := by
  have hfront : (front ++ render (q ++ below)).drop (front ++ render q).length =
      (render (q ++ below)).drop (render q).length := by
    rw [List.length_append, ← List.drop_drop, List.drop_left]
  rw [hfront]
  cases q with
  | nil =>
    rw [List.nil_append, render_eq_intercalate below]
    exact lstrip_intercalate below
  | cons n q =>
    have hsplit : render (n :: q ++ below) =
        render (n :: q) ++ below.flatMap (fun n => sep :: n.val) := by
      simp [render]
    rw [hsplit, List.drop_left]
    cases below with
    | nil => rfl
    | cons m below =>
      have hm : (m :: below).flatMap (fun n => sep :: n.val) = render (m :: below) := rfl
      rw [hm, render_eq_intercalate, lstrip_sep]
      exact lstrip_intercalate _

/-- The segments of joined names. -/
lemma split_intercalate {below : List Name} (h : below ≠ []) :
    split ([sep].intercalate (below.map Name.val)) = below.map Name.val := by
  apply List.splitOn_intercalate
  · intro l hl
    obtain ⟨n, -, rfl⟩ := List.mem_map.1 hl
    exact n.sep_notMem
  · simpa using h

/-- Only `/` ends with a separator. -/
lemma rstripChar_render {q : List Name} (hq : q ≠ []) : rstripChar (render q) '/' = render q := by
  have hend := endsWithChar_render hq
  apply List.rdropWhile_eq_self_iff.2
  intro hne hlast
  rw [endsWithChar, List.getLast?_eq_some_getLast hne, beq_iff_eq.1 hlast] at hend
  exact Bool.false_ne_true (hend.symm.trans (beq_self_eq_true _))

/-- A root without its separators, and a name behind it. -/
lemma rstrip_render (q : List Name) (n : Name) :
    rstripChar (render q) '/' ++ sep :: n.val = render (q ++ [n]) := by
  cases q with
  | nil => simp [render, rstripChar, sep]
  | cons m q =>
    rw [rstripChar_render (List.cons_ne_nil m q)]
    simp [render]

lemma computeScanPath_direct (front : Str) (q : List Name) (h : below.length ≤ 1) :
    computeScanPath (front ++ render q) (front ++ render (q ++ below)) =
      (front ++ render q, none) := by
  unfold computeScanPath
  dsimp only
  rw [relative_render]
  cases below with
  | nil => rfl
  | cons n below =>
    cases below with
    | nil =>
      rw [split_intercalate (by simp)]
      rfl
    | cons m below =>
      rw [List.length_cons, List.length_cons] at h
      omega

lemma computeScanPath_inside (front : Str) (q : List Name) (n m : Name) (below : List Name) :
    computeScanPath (front ++ render q) (front ++ render (q ++ n :: m :: below)) =
      (rstripChar (front ++ render q) '/' ++ sep :: n.val, some n.val) := by
  unfold computeScanPath
  dsimp only
  rw [relative_render, split_intercalate (by simp)]
  rfl

/-- Two libraries share a key when they are the same or confused. -/
lemma libraryKey_inj {libraryId libraryId' : Option Str} :
    libraryKey libraryId = libraryKey libraryId' ↔
      libraryId = libraryId' ∨ Confused libraryId libraryId' := by
  rw [libraryKey, libraryKey, List.append_cancel_left_eq]
  cases libraryId with
  | none =>
    cases libraryId' with
    | none => simp [Confused]
    | some t => simp [Confused, showOption, eq_comm]
  | some s =>
    cases libraryId' with
    | none => simp [Confused, showOption]
    | some t => simp [Confused, showOption]

/-! ### The requests -/

lemma requestOf (hr : r.path = render q) (he : event.path = render (q ++ below)) :
    RequestOf event r (r.request event) := by
  have hcr : components r.path = q := by rw [hr, components_render]
  have hce : components event.path = components r.path ++ below := by
    rw [he, hcr, components_render]
  cases hmode : r.scanMode with
  | library =>
    refine ⟨rfl, rfl, rfl, rfl, rfl, rfl, fun h => ?_, fun _ => ?_⟩
    · rw [hmode] at h
      cases h
    · rw [FolderRoute.request, hmode]
      exact ⟨rfl, rfl⟩
  | targeted =>
    refine ⟨rfl, rfl, rfl, rfl, rfl, rfl, fun _ => ?_, fun h => ?_⟩
    · have hreq : r.request event = { r.request event with
          scanPath := some (computeScanPath r.path event.path).1
          topFolder := (computeScanPath r.path event.path).2
          scanKey := (computeScanPath r.path event.path).1 } := by
        simp only [FolderRoute.request, hmode]
      rw [hreq, he]
      refine ⟨rfl, ?_⟩
      dsimp only
      by_cases hlen : below.length ≤ 1
      · have hscan : computeScanPath (render q) (render (q ++ below)) = (render q, none) :=
          computeScanPath_direct [] q hlen
        rw [hr, hscan, ← hr, ← he]
        exact ⟨.direct below hce hlen, hce ▸ List.prefix_append _ _⟩
      · obtain ⟨n, m, rest, rfl⟩ : ∃ n m rest, below = n :: m :: rest := by
          match below, hlen with
          | n :: m :: rest, _ => exact ⟨n, m, rest, rfl⟩
          | [], h => exact absurd (Nat.zero_le _) h
          | [n], h => exact absurd (Nat.le_refl _) h
        have hscan : computeScanPath (render q) (render (q ++ n :: m :: rest)) =
            (render (q ++ [n]), some n.val) := by
          rw [← rstrip_render]
          exact computeScanPath_inside [] q n m rest
        rw [hr, hscan, ← he, ← hr, ← hcr]
        refine ⟨.inside n m rest hce, ?_⟩
        rw [components_render, hce]
        exact ⟨m :: rest, by simp⟩
    · rw [hmode] at h
      cases h

lemma requestFor_canonical (hr : Canonical r.path) (he : Canonical event.path)
    (hshown : isIgnored event.path config.ignoreDirs = false) :
    requestFor lower event r =
      if Selected lower config event r then some (r.request event) else none := by
  obtain ⟨q, hq⟩ := hr
  obtain ⟨p, hp⟩ := he
  have hprefix : components r.path <+: components event.path ↔
      isPathPrefix r.path event.path = true := by
    rw [hq, hp, components_render, components_render, isPathPrefix_render]
  have hclear : ∀ n ∈ components event.path, n.val ∉ config.ignoreDirs := by
    rw [hp] at hshown ⊢
    rw [components_render]
    intro n hn hmem
    exact Bool.false_ne_true (hshown.symm.trans (isIgnored_render.2 (.inr ⟨n, hn, hmem⟩)))
  have hsel : Selected lower config event r ↔ isPathPrefix r.path event.path = true ∧
      extensionMatches lower event.path r.extensions = true ∧ event.eventType ∈ r.eventTypes := by
    rw [Selected, hprefix, and_iff_right hclear]
  split
  · next h => exact requestFor_eq_some.2 ⟨hsel.1 h, rfl⟩
  · next h =>
    apply Option.eq_none_iff_forall_ne_some.2
    intro req hreq
    exact h (hsel.2 (requestFor_eq_some.1 hreq).1)

/-- Where no directory without a name is ignored, the router makes the requests of the routes that
select the event. -/
lemma route_eq (hroutes : ∀ r ∈ config.routes, Canonical r.path) (he : Canonical event.path)
    (hnil : [] ∉ config.ignoreDirs) :
    route lower event config =
      (config.routes.filter (Selected lower config event)).map fun r => r.request event := by
  unfold route
  split
  · next hign =>
    have hnone : config.routes.filter (Selected lower config event) = [] := by
      apply List.filter_eq_nil_iff.2
      intro r _ hsel
      obtain ⟨p, hp⟩ := he
      have hclear := (of_decide_eq_true hsel).2.1
      rw [hp] at hign hclear
      rw [components_render] at hclear
      rcases isIgnored_render.1 hign with h | ⟨n, hn, hmem⟩
      · exact hnil h
      · exact hclear n hn hmem
    rw [hnone]
    rfl
  · next hshown =>
    rw [← List.filterMap_eq_map, List.filterMap_filter]
    apply List.filterMap_congr
    intro r hr
    rw [requestFor_canonical (hroutes r hr) he (Bool.eq_false_iff.2 hshown)]
    simp only [decide_eq_true_eq, Function.comp_apply]

/-- With a directory without a name, every absolute path is ignored. -/
lemma route_nil (he : Canonical event.path) (hnil : [] ∈ config.ignoreDirs) :
    route lower event config = [] := by
  obtain ⟨p, hp⟩ := he
  rw [route, if_pos]
  rw [hp]
  exact isIgnored_render.2 (.inl hnil)

lemma selected_render (hroutes : ∀ r ∈ config.routes, Canonical r.path) (he : Canonical event.path)
    (hr : r ∈ config.routes) (hsel : Selected lower config event r) :
    RequestOf event r (r.request event) := by
  obtain ⟨q, hq⟩ := hroutes r hr
  obtain ⟨p, hp⟩ := he
  have hprefix := hsel.1
  rw [hq, hp, components_render, components_render] at hprefix
  obtain ⟨below, rfl⟩ := hprefix
  exact requestOf hq hp

/-- In library mode the key is that of the library. -/
lemma request_library (hmode : r.scanMode = .library) :
    (r.request event).scanKey = libraryKey r.libraryId := by
  rw [FolderRoute.request, hmode]

/-- Where every path is ignored, nothing may be selected. -/
lemma routed_nil_iff (he : Canonical event.path) (hnil : [] ∈ config.ignoreDirs) :
    RoutedBySpec lower config event event' ↔ Distinct lower config event event' := by
  have hroute : route lower event config = [] := route_nil he hnil
  constructor
  · intro h
    have hnone := h.requests
    rw [hroute, List.forall₂_nil_right_iff, List.filter_eq_nil_iff] at hnone
    have hsel : ∀ r ∈ config.routes, ¬Selected lower config event r :=
      fun r hr hs => hnone r hr (decide_eq_true hs)
    exact ⟨fun _ => hsel, fun r hr _ _ hs => absurd hs (hsel r hr)⟩
  · intro h
    have hnone : config.routes.filter (Selected lower config event) = [] :=
      List.filter_eq_nil_iff.2 fun r hr hs => h.1 hnil r hr (of_decide_eq_true hs)
    refine ⟨?_, ?_⟩
    · rw [hnone, hroute]
      exact .nil
    · rw [hroute]
      exact fun req hreq => (by cases hreq)

section Named
variable (hroutes : ∀ r ∈ config.routes, Canonical r.path) (hnil : [] ∉ config.ignoreDirs)
include hroutes hnil

lemma mem_route_canonical (he : Canonical event.path) (req : ScanRequest) :
    req ∈ route lower event config ↔
      ∃ r ∈ config.routes, Selected lower config event r ∧ r.request event = req := by
  rw [route_eq hroutes he hnil, List.mem_map]
  simp only [List.mem_filter, decide_eq_true_eq, and_assoc]

/-- The requests are those of the routes that select the event. -/
lemma requests_by_spec (he : Canonical event.path) :
    List.Forall₂ (RequestOf event) (config.routes.filter (Selected lower config event))
      (route lower event config) := by
  rw [route_eq hroutes he hnil, List.forall₂_map_right_iff, List.forall₂_same]
  intro r hr
  obtain ⟨hr, hs⟩ := List.mem_filter.1 hr
  exact selected_render hroutes he hr (of_decide_eq_true hs)

/-- The keys are right where no library without an id meets one with the id `None`. -/
lemma distinct_of_spec (he : Canonical event.path) (he' : Canonical event'.path)
    (h : RoutedBySpec lower config event event') : Distinct lower config event event' := by
  refine ⟨fun hn => absurd hn hnil, ?_⟩
  intro r hr r' hr' hs hs' hserver hmode hmode' hconf
  have hkeys := h.keys _ ((mem_route_canonical hroutes hnil he _).2 ⟨r, hr, hs, rfl⟩) _
    ((mem_route_canonical hroutes hnil he' _).2 ⟨r', hr', hs', rfl⟩) hserver hmode hmode'
  rw [request_library hmode, request_library hmode', libraryKey_inj] at hkeys
  have hsame : r.libraryId = r'.libraryId := hkeys.1 (.inr hconf)
  rcases hconf with ⟨h1, h2⟩ | ⟨h1, h2⟩
  · rw [h1, h2] at hsame
    cases hsame
  · rw [h1, h2] at hsame
    cases hsame

lemma spec_of_distinct (he : Canonical event.path) (he' : Canonical event'.path)
    (h : Distinct lower config event event') : RoutedBySpec lower config event event' := by
  refine ⟨requests_by_spec hroutes hnil he, ?_⟩
  intro req hreq req' hreq' hserver hmode hmode'
  obtain ⟨r, hr, hs, rfl⟩ := (mem_route_canonical hroutes hnil he _).1 hreq
  obtain ⟨r', hr', hs', rfl⟩ := (mem_route_canonical hroutes hnil he' _).1 hreq'
  have hmode : r.scanMode = .library := hmode
  have hmode' : r'.scanMode = .library := hmode'
  rw [request_library hmode, request_library hmode', libraryKey_inj]
  have hconf := h.2 r hr r' hr' hs hs' hserver hmode hmode'
  exact or_iff_left hconf

end Named

/-- The router follows the specification exactly when no directory without a name is ignored where a
route selects the event, and no server has routes for the library without an id and for the one with
the id `None` that both select. -/
theorem routed_by_spec_iff (hroutes : ∀ r ∈ config.routes, Canonical r.path)
    (he : Canonical event.path) (he' : Canonical event'.path) :
    RoutedBySpec lower config event event' ↔ Distinct lower config event event' := by
  by_cases hnil : [] ∈ config.ignoreDirs
  · exact routed_nil_iff he hnil
  · exact ⟨distinct_of_spec hroutes hnil he he', spec_of_distinct hroutes hnil he he'⟩

/-- A route of a server for films and series. -/
def mediaRoute (path : Str) (scanMode : ScanMode) (libraryId : Option Str) : FolderRoute :=
  ⟨1, "plex".toList, path, [], libraryId, scanMode, FsEventType.all⟩

/-- A configuration with these routes. -/
def routesConfig (routes : List FolderRoute) : RuntimeConfig :=
  ⟨routes.map FolderRoute.path, routes, ∅, IGNORE_DIRS⟩

/-- A file that is created at a path. -/
def fileCreated (path : Str) : FsEvent := ⟨path, .created, false⟩

/-- The routes for the root and for two nested directories, one of them with a library. -/
def nestedRoutes : List FolderRoute :=
  [mediaRoute "/".toList .targeted none, mediaRoute "/m".toList .library none,
    mediaRoute "/m/tv".toList .library (some "2".toList)]

lemma canonical_nested : ∀ r ∈ (routesConfig nestedRoutes).routes, Canonical r.path := by
  intro r hr
  rcases List.mem_cons.1 hr with rfl | hr
  · exact ⟨[], rfl⟩
  · rcases List.mem_cons.1 hr with rfl | hr
    · exact ⟨[name "m"], rfl⟩
    · cases List.mem_singleton.1 hr
      exact ⟨[name "m", name "tv"], rfl⟩

/-- Two events of nested routes. -/
theorem routed_by_spec_iff_nested :
    RoutedBySpec lowerAscii (routesConfig nestedRoutes) (fileCreated "/m/tv/Show/e.mkv".toList)
      (fileCreated "/m/film.mkv".toList) := by
  have he : Canonical "/m/tv/Show/e.mkv".toList :=
    ⟨[name "m", name "tv", name "Show", name "e.mkv"], rfl⟩
  have he' : Canonical "/m/film.mkv".toList := ⟨[name "m", name "film.mkv"], rfl⟩
  exact (routed_by_spec_iff canonical_nested he he').2 (by decide)

/-- The route without a library id and the one for the library `None`. -/
def noneRoutes : List FolderRoute :=
  [mediaRoute "/m".toList .library none, mediaRoute "/m".toList .library (some "None".toList)]

/-- A server with both has one key for two libraries. -/
theorem library_none_shared :
    ¬∀ (lower : Str → Str) (config : RuntimeConfig) (event event' : FsEvent),
      (∀ r ∈ config.routes, Canonical r.path) → Canonical event.path → Canonical event'.path →
        RoutedBySpec lower config event event' := by
  intro h
  have hroutes : ∀ r ∈ (routesConfig noneRoutes).routes, Canonical r.path := by
    intro r hr
    rcases List.mem_cons.1 hr with rfl | hr
    · exact ⟨[name "m"], rfl⟩
    · cases List.mem_singleton.1 hr
      exact ⟨[name "m"], rfl⟩
  have he : Canonical "/m/film.mkv".toList := ⟨[name "m", name "film.mkv"], rfl⟩
  have hspec := h lowerAscii (routesConfig noneRoutes) (fileCreated "/m/film.mkv".toList)
    (fileCreated "/m/film.mkv".toList) hroutes he he
  have hkeys := hspec.keys _ List.mem_cons_self _ (List.mem_cons_of_mem _ List.mem_cons_self)
    rfl rfl rfl
  revert hkeys
  decide

end MediaScanMonitor
