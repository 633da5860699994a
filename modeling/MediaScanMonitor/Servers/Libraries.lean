import MediaScanMonitor.Lib.Json
import MediaScanMonitor.Pipeline.Dispatcher

/-!
# Library discovery

`list_libraries` of the adapters, and `run_library_listing` of `web/serverprobe.py`. A media server
answers with a JSON document, and Pydantic validates it; `Lists` says which documents list which
libraries.
-/

namespace MediaScanMonitor
open Text Json

/-- `LibraryOption`. -/
structure LibraryOption where
  id : Str
  name : Str
deriving DecidableEq

/-- `LibraryListResult`. -/
structure LibraryListResult where
  ok : Bool
  detail : Str
  libraries : List LibraryOption := []
deriving DecidableEq

/-- The client of a probe, with what the adapters use. -/
structure ProbeClient extends Outside where
  /-- `resp.json()` of the answer to a request. -/
  json : Request → Except Exn Value

/-! ## The documents

A model ignores the members that it has no field for; `none` is its `ValidationError`. -/

/-- A field of type `str`. -/
def strField (v : Value) (key : Str) : Option Str :=
  match v.get key with
  | some (.string s) => some s
  | _ => none

/-- A list of a model. -/
def listOf {α : Type} (item : Value → Option α) : Value → Option (List α)
  | .array items => items.mapM item
  | _ => none

/-- A model of a library, by the aliases of its two fields. -/
def libraryOption (id name : Str) (v : Value) : Option LibraryOption := do
  let id ← strField v id
  let name ← strField v name
  pure ⟨id, name⟩

/-- `_PlexSection`. -/
def plexSection : Value → Option LibraryOption :=
  libraryOption "key".toList "title".toList

/-- `_PlexMediaContainer`. -/
def plexMediaContainer : Value → Option (List LibraryOption)
  | .object ms =>
    match (Value.object ms).get "Directory".toList with
    -- a server without libraries leaves it out
    | none => some []
    | some directory => listOf plexSection directory
  | _ => none

/-- `_PlexSectionsResponse`. -/
def plexSectionsResponse (v : Value) : Option (List LibraryOption) := do
  plexMediaContainer (← v.get "MediaContainer".toList)

/-- `_EmbyVirtualFolder`. -/
def embyVirtualFolder : Value → Option LibraryOption :=
  libraryOption "ItemId".toList "Name".toList

/-- `_JellyfinVirtualFolder`. -/
def jellyfinVirtualFolder : Value → Option LibraryOption :=
  libraryOption "ItemId".toList "Name".toList

/-- `_AbsLibrary`. -/
def absLibrary : Value → Option LibraryOption :=
  libraryOption "id".toList "name".toList

/-- `_AbsLibrariesResponse`. -/
def absLibrariesResponse (v : Value) : Option (List LibraryOption) := do
  listOf absLibrary (← v.get "libraries".toList)

/-! ## The adapters -/

/-- An adapter with `list_libraries`. -/
structure Discovery extends RestAdapter where
  /-- The URL, after the base. -/
  path : Str
  /-- The headers beside `_headers`. -/
  accept : List (Str × Str)
  parse : Value → Option (List LibraryOption)
  unexpected : Str

def plexDiscovery : Discovery where
  toRestAdapter := plexAdapter
  path := "/library/sections".toList
  accept := [("Accept".toList, "application/json".toList)]
  parse := plexSectionsResponse
  unexpected := "unexpected response from Plex".toList

def embyDiscovery : Discovery where
  toRestAdapter := embyAdapter
  path := "/Library/VirtualFolders".toList
  accept := []
  parse := listOf embyVirtualFolder
  unexpected := "unexpected response from Emby".toList

def jellyfinDiscovery : Discovery where
  toRestAdapter := jellyfinAdapter
  path := "/Library/VirtualFolders".toList
  accept := []
  parse := listOf jellyfinVirtualFolder
  unexpected := "unexpected response from Jellyfin".toList

def audiobookshelfDiscovery : Discovery where
  toRestAdapter := audiobookshelfAdapter
  path := "/api/libraries".toList
  accept := []
  parse := absLibrariesResponse
  unexpected := "unexpected response from Audiobookshelf".toList

/-- The adapter of a type with `supports_library_discovery`. -/
def ServerType.discovery : ServerType → Option Discovery
  | .webhook => none
  | .plex => some plexDiscovery
  | .emby => some embyDiscovery
  | .jellyfin => some jellyfinDiscovery
  | .audiobookshelf => some audiobookshelfDiscovery

namespace Discovery

/-- The request of a listing. -/
def listRequest (d : Discovery) (server : ServerRuntime) : Request :=
  ⟨"GET".toList, RestAdapter.base server ++ d.path, d.headers server ++ d.accept, none⟩

/-- `list_libraries`. -/
def listLibraries (d : Discovery) (client : ProbeClient) (server : ServerRuntime) :
    Except Exn LibraryListResult :=
  match requestWithRetry client.exchange (d.listRequest server) 1 with
  | .error exc => if exc.isHttp then .ok { ok := false, detail := exc.detail } else .error exc
  | .ok resp =>
    if !resp.isSuccess then .ok { ok := false, detail := resp.detail }
    else
      match client.json (d.listRequest server) with
      | .error exc =>
        -- a document that is no JSON is a `ValueError`
        if exc.cls.family = .value then .ok { ok := false, detail := d.unexpected } else .error exc
      | .ok v =>
        match d.parse v with
        | none => .ok { ok := false, detail := d.unexpected }
        | some libraries => .ok { ok := true, detail := [], libraries := libraries }

end Discovery

/-- `run_library_listing`. -/
def ServerRuntime.listLibraries (client : ProbeClient) (server : ServerRuntime) :
    Except Exn LibraryListResult :=
  match server.type.discovery with
  | none => .ok { ok := false, detail := "This server type has no libraries to list.".toList }
  | some d => d.listLibraries client server

/-! ## What is listed -/

/-- The items of an array are the libraries, by the names of two members. -/
def ListsItems (id name : Str) (v : Value) (libraries : List LibraryOption) : Prop :=
  ∃ items, v = .array items ∧
    List.Forall₂ (fun item lib => item.get id = some (.string lib.id) ∧
      item.get name = some (.string lib.name)) items libraries

/-- The document lists the libraries, in the format of the type of server. -/
def Lists (type : ServerType) (v : Value) (libraries : List LibraryOption) : Prop :=
  match type with
  | .webhook => False
  | .plex => ∃ ms, v.get "MediaContainer".toList = some (.object ms) ∧
      match (Value.object ms).get "Directory".toList with
      | none => libraries = []
      | some directory => ListsItems "key".toList "title".toList directory libraries
  | .emby => ListsItems "ItemId".toList "Name".toList v libraries
  | .jellyfin => ListsItems "ItemId".toList "Name".toList v libraries
  | .audiobookshelf => ∃ l, v.get "libraries".toList = some l ∧
      ListsItems "id".toList "name".toList l libraries

variable {v : Value} {libraries : List LibraryOption} {lib : LibraryOption} {id name : Str}

lemma strField_eq_some {key s : Str} : strField v key = some s ↔ v.get key = some (.string s) := by
  unfold strField
  cases v.get key with
  | none => exact ⟨fun h => (by cases h), fun h => (by cases h)⟩
  | some w => cases w <;> simp

lemma libraryOption_eq_some : libraryOption id name v = some lib ↔
    v.get id = some (.string lib.id) ∧ v.get name = some (.string lib.name) := by
  rw [← strField_eq_some, ← strField_eq_some, libraryOption]
  cases strField v id with
  | none => exact ⟨fun h => (by cases h), fun h => (by cases h.1)⟩
  | some i =>
    cases strField v name with
    | none => exact ⟨fun h => (by cases h), fun h => (by cases h.2)⟩
    | some n =>
      obtain ⟨id, name⟩ := lib
      show some (LibraryOption.mk i n) = some ⟨id, name⟩ ↔ some i = some id ∧ some n = some name
      simp

lemma mapM_eq_some {α β : Type} {f : α → Option β} {l : List α} {l' : List β} :
    l.mapM f = some l' ↔ List.Forall₂ (fun a b => f a = some b) l l' := by
  induction l generalizing l' with
  | nil =>
    rw [List.mapM_nil, List.forall₂_nil_left_iff]
    exact ⟨fun h => (Option.some.inj h).symm, fun h => congrArg some h.symm⟩
  | cons a l ih =>
    rw [List.mapM_cons, List.forall₂_cons_left_iff]
    constructor
    · intro h
      obtain ⟨b, hb, h⟩ := Option.bind_eq_some_iff.1 h
      obtain ⟨bs, hbs, h⟩ := Option.bind_eq_some_iff.1 h
      exact ⟨b, bs, hb, ih.1 hbs, (Option.some.inj h).symm⟩
    · rintro ⟨b, bs, hb, hbs, rfl⟩
      rw [hb, ih.2 hbs]
      rfl

lemma listOf_eq_some :
    listOf (libraryOption id name) v = some libraries ↔ ListsItems id name v libraries := by
  cases v with
  | array items =>
    show items.mapM (libraryOption id name) = some libraries ↔ _
    rw [mapM_eq_some]
    simp only [libraryOption_eq_some]
    constructor
    · exact fun h => ⟨items, rfl, h⟩
    · rintro ⟨_, ⟨⟩, h⟩
      exact h
  | _ => exact ⟨fun h => (by cases h), fun ⟨_, h, _⟩ => (by cases h)⟩

lemma plexMediaContainer_eq_some : plexMediaContainer v = some libraries ↔ ∃ ms, v = .object ms ∧
    match (Value.object ms).get "Directory".toList with
    | none => libraries = []
    | some directory => ListsItems "key".toList "title".toList directory libraries := by
  cases v with
  | object ms =>
    have hstep : plexMediaContainer (.object ms) =
      match (Value.object ms).get "Directory".toList with
      | none => some []
      | some directory => listOf plexSection directory := rfl
    rw [hstep]
    constructor
    · intro h
      refine ⟨ms, rfl, ?_⟩
      cases hd : (Value.object ms).get "Directory".toList with
      | none =>
        rw [hd] at h
        exact (Option.some.inj h).symm
      | some directory =>
        rw [hd] at h
        exact listOf_eq_some.1 h
    · rintro ⟨_, ⟨⟩, h⟩
      cases hd : (Value.object ms).get "Directory".toList with
      | none =>
        rw [hd] at h
        exact congrArg some h.symm
      | some directory =>
        rw [hd] at h
        exact listOf_eq_some.2 h
  | _ => exact ⟨fun h => (by cases h), fun ⟨_, h, _⟩ => (by cases h)⟩

/-- The validators accept what lists libraries, and nothing else. -/
theorem parse_eq_some {type : ServerType} {d : Discovery} (hd : type.discovery = some d) :
    d.parse v = some libraries ↔ Lists type v libraries := by
  cases type with
  | webhook => cases hd
  | plex =>
    cases hd
    show (v.get "MediaContainer".toList).bind plexMediaContainer = some libraries ↔ _
    rw [Option.bind_eq_some_iff]
    constructor
    · rintro ⟨c, hc, hlibs⟩
      obtain ⟨ms, rfl, hitems⟩ := plexMediaContainer_eq_some.1 hlibs
      exact ⟨ms, hc, hitems⟩
    · rintro ⟨ms, hc, h⟩
      exact ⟨_, hc, plexMediaContainer_eq_some.2 ⟨ms, rfl, h⟩⟩
  | emby =>
    cases hd
    exact listOf_eq_some
  | jellyfin =>
    cases hd
    exact listOf_eq_some
  | audiobookshelf =>
    cases hd
    show (v.get "libraries".toList).bind (listOf absLibrary) = some libraries ↔ _
    rw [Option.bind_eq_some_iff]
    exact exists_congr fun l => and_congr_right fun _ => listOf_eq_some

/-- A listing succeeds exactly on an answer that lists libraries, and has these. -/
theorem listLibraries_eq_ok {client : ProbeClient} {server : ServerRuntime} :
    server.listLibraries client = .ok { ok := true, detail := [], libraries := libraries } ↔
      ∃ d resp v, server.type.discovery = some d ∧
        client.exchange (d.listRequest server) 0 = .ok resp ∧ resp.isSuccess = true ∧
        client.json (d.listRequest server) = .ok v ∧ Lists server.type v libraries := by
  unfold ServerRuntime.listLibraries
  cases hd : server.type.discovery with
  | none => exact ⟨fun h => (by cases h), fun ⟨_, _, _, h, _⟩ => (by cases h)⟩
  | some d =>
    -- a listing makes one attempt
    have hone : requestWithRetry client.exchange (d.listRequest server) 1 =
        client.exchange (d.listRequest server) 0 := rfl
    show d.listLibraries client server = _ ↔ _
    unfold Discovery.listLibraries
    rw [hone]
    constructor
    · intro h
      split at h
      · split at h <;> cases h
      · next resp hresp =>
        split at h
        · cases h
        · next hsuccess =>
          split at h
          · split at h <;> cases h
          · next v hv =>
            split at h
            · cases h
            · next parsed hparse =>
              cases h
              refine ⟨d, resp, v, rfl, hresp, ?_, hv, (parse_eq_some hd).1 hparse⟩
              simpa using hsuccess
    · rintro ⟨_, resp, v, ⟨⟩, hresp, hsuccess, hv, hlists⟩
      rw [hresp]
      simp only [hsuccess, hv, (parse_eq_some hd).2 hlists, Bool.not_true, Bool.false_eq_true,
        if_false]

end MediaScanMonitor
