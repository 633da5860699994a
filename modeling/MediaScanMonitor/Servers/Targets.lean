import MediaScanMonitor.Lib.Percent
import MediaScanMonitor.Lib.Uri
import MediaScanMonitor.Servers.Rest

/-!
# The URLs of the triggers

What a media server reads in the URL of a trigger. The adapters write the library id as it is and
quote the path to scan, so that the path always arrives, and the library id exactly when it means
nothing in a URL.
-/

namespace MediaScanMonitor
open Text Percent Uri

/-- The URL of a trigger, with the `quote` of `urllib.parse`. -/
def RestAdapter.triggerUrl (a : RestAdapter) (out : Outside) (server : ServerRuntime)
    (req : ScanRequest) : Str :=
  (a.triggerRequest { out with quote := quote ['/'] } server req).url

/-- The request as a targeted one, of a path in a library. -/
def ScanRequest.targeting (req : ScanRequest) (libraryId scanPath : Str) : ScanRequest :=
  { req with
    scanMode := .targeted
    scanPath := some scanPath
    libraryId := some libraryId }

/-- The URL leads to where the base does, and further by the segments `front`, one that decodes to
the library id, and `back`. -/
structure Targets (base url : Str) (front back : List Str) (libraryId : Str) : Prop where
  scheme : (parse url).scheme = (parse base).scheme
  authority : (parse url).authority = (parse base).authority
  path : ∃ segment, segments (parse url).path =
    segments (parse base).path ++ front ++ segment :: back ∧ decode segment = utf8 libraryId

/-- The query of the URL is the one parameter `path`, which decodes to the path to scan. -/
def ScansPath (url scanPath : Str) : Prop :=
  ∃ query value, (parse url).query = some query ∧
    parameters query = [("path".toList, some value)] ∧ decode value = utf8 scanPath

/-- A library id that means nothing in a URL. -/
structure Literal (libraryId : Str) : Prop where
  slash : '/' ∉ libraryId
  question : '?' ∉ libraryId
  hash : '#' ∉ libraryId
  escape : hasEscape libraryId = false

variable {base pre suf rest libraryId scanPath : Str}

lemma isPathEnd_iff {s : Str} : (∀ c ∈ s, isPathEnd c = false) ↔ '?' ∉ s ∧ '#' ∉ s := by
  constructor
  · intro h
    exact ⟨fun hq => (by cases h '?' hq), fun hh => (by cases h '#' hh)⟩
  · rintro ⟨hq, hh⟩ c hc
    have hne : c ≠ '?' ∧ c ≠ '#' := ⟨fun h => hq (h ▸ hc), fun h => hh (h ▸ hc)⟩
    unfold isPathEnd
    rw [decide_eq_false hne.1, decide_eq_false hne.2]
    rfl

/-- `base_url` without the slashes at its end. -/
lemma isBase_base {server : ServerRuntime} (hq : '?' ∉ server.baseUrl) (hh : '#' ∉ server.baseUrl) :
    IsBase (RestAdapter.base server) := by
  constructor
  · intro c hc
    exact isPathEnd_iff.2 ⟨hq, hh⟩ c ((List.rdropWhile_prefix _ (l := server.baseUrl)).mem hc)
  · intro hlast
    have hne : RestAdapter.base server ≠ [] := by
      intro h
      rw [h] at hlast
      cases hlast
    rw [List.getLast?_eq_some_getLast hne] at hlast
    exact List.rdropWhile_last_not (· == '/') _ hne (beq_iff_eq.2 (Option.some.inj hlast))

/-- What a trigger appends to the base. -/
lemma isTail_trigger (hhead : pre ≠ [] ∧ pre.head? ≠ some '/') (rest : Str) :
    IsTail ('/' :: (pre ++ rest)) := by
  refine ⟨_, rfl, ?_⟩
  rw [List.head?_append_of_ne_nil _ hhead.1]
  exact hhead.2

lemma noPathEnd_trigger (hpre : ∀ c ∈ pre, isPathEnd c = false) :
    ∀ c ∈ '/' :: (pre ++ ['/']), isPathEnd c = false := by
  intro c hc
  rcases List.mem_cons.1 hc with rfl | hc
  · rfl
  · rcases List.mem_append.1 hc with hc | hc
    · exact hpre c hc
    · rw [List.mem_singleton.1 hc]
      rfl

/-- What stands in the path of a trigger's URL behind that of the base. -/
lemma pathOf_trigger (hpre : ∀ c ∈ pre, isPathEnd c = false) (rest : Str) :
    pathOf ('/' :: (pre ++ '/' :: rest)) = '/' :: (pre ++ '/' :: pathOf rest) := by
  simpa using pathOf_append (noPathEnd_trigger hpre) rest

lemma queryOf_trigger (hpre : ∀ c ∈ pre, isPathEnd c = false) (rest : Str) :
    queryOf ('/' :: (pre ++ '/' :: rest)) = queryOf rest := by
  simpa using queryOf_append (noPathEnd_trigger hpre) rest

/-- What decodes to a text is no proper part of it. -/
lemma not_decode_of_part {segment : Str} (hsegment : segment <+: libraryId)
    (hne : segment ≠ libraryId) : decode segment ≠ utf8 libraryId := by
  obtain ⟨more, rfl⟩ := hsegment
  intro hdecode
  have hle := length_decode_le segment
  rw [hdecode, utf8_append, List.length_append] at hle
  cases more with
  | nil => exact hne (List.append_nil _).symm
  | cons c more =>
    have hc := utf8_pos c
    rw [utf8_cons, List.length_append] at hle
    omega

/-- The segments of a path that goes on with what stands behind a library id are the id's own when
the id is literal. -/
lemma segments_iff {bt : Str} (hsuf : pathOf suf = '/' :: bt) :
    (∃ segment, segments (pathOf (libraryId ++ suf)) = segment :: segments bt ∧
      decode segment = utf8 libraryId) ↔ Literal libraryId := by
  constructor
  · rintro ⟨segment, hsegments, hdecode⟩
    by_cases hend : ∀ c ∈ libraryId, isPathEnd c = false
    · rw [pathOf_append hend, hsuf, segments_append] at hsegments
      have hone : segments libraryId = [segment] := List.append_cancel_right hsegments
      obtain ⟨hslash, rfl⟩ := segments_eq_singleton_iff.1 hone
      obtain ⟨hq, hh⟩ := isPathEnd_iff.1 hend
      exact ⟨hslash, hq, hh, decode_eq_self_iff.1 hdecode⟩
    · -- the id is cut where the query or the fragment begins
      have hmark : ∃ c ∈ libraryId, (!isPathEnd c) = false := by
        by_contra hnone
        refine hend fun c hc => Bool.eq_false_iff.2 fun hc' => hnone ⟨c, hc, ?_⟩
        rw [hc']
        rfl
      have hcut : pathOf (libraryId ++ suf) = pathOf libraryId :=
        (takeWhile_append_of_mem hmark suf).1
      rw [hcut] at hsegments
      have hfirst := first_of_segments hsegments
      have hshort : segment ≠ libraryId := by
        rintro rfl
        obtain ⟨c, hc, hc'⟩ := hmark
        rw [List.mem_takeWhile_imp (hfirst.mem hc)] at hc'
        cases hc'
      exact absurd hdecode
        (not_decode_of_part (hfirst.trans (List.takeWhile_prefix _)) hshort)
  · rintro ⟨hslash, hq, hh, hescape⟩
    refine ⟨libraryId, ?_, decode_eq_self_iff.2 hescape⟩
    rw [pathOf_append (isPathEnd_iff.2 ⟨hq, hh⟩), hsuf, segments_append,
      segments_eq_singleton_iff.2 ⟨hslash, rfl⟩]
    rfl

/-- The library id is one segment of the path exactly when it is literal. -/
lemma targets_iff (hb : IsBase base) (pre bt : Str) {front back : List Str}
    (hpre : ∀ c ∈ pre, isPathEnd c = false) (hhead : pre ≠ [] ∧ pre.head? ≠ some '/')
    (hsuf : pathOf suf = '/' :: bt) (hfront : segments pre = front) (hback : segments bt = back) :
    Targets base (base ++ '/' :: (pre ++ '/' :: (libraryId ++ suf))) front back libraryId ↔
      Literal libraryId := by
  subst hfront hback
  have hparse := parse_append hb (isTail_trigger hhead ('/' :: (libraryId ++ suf)))
  have hpath : segments (parse (base ++ '/' :: (pre ++ '/' :: (libraryId ++ suf)))).path =
      segments (parse base).path ++ segments pre ++ segments (pathOf (libraryId ++ suf)) := by
    rw [hparse, pathOf_trigger hpre, segments_append, segments_append, List.append_assoc]
  rw [← segments_iff hsuf]
  constructor
  · rintro ⟨-, -, segment, hsegments, hdecode⟩
    rw [hpath] at hsegments
    exact ⟨segment, List.append_cancel_left hsegments, hdecode⟩
  · rintro ⟨segment, hsegments, hdecode⟩
    refine ⟨by rw [hparse], by rw [hparse], segment, ?_, hdecode⟩
    rw [hpath, hsegments]

/-- What is quoted contains no character that ends a parameter or the query. -/
lemma notMem_quote {c : Char} (halnum : c.isAlphanum = false)
    (hmark : c ∉ "_.-~%".toList ++ ['/']) (s : Str) : c ∉ quote ['/'] s := by
  intro h
  rcases mem_quote h with hc | hc | hc
  · rw [hc] at halnum
    cases halnum
  · exact hmark (List.mem_append_left _ hc)
  · exact hmark (List.mem_append_right _ hc)

/-- The query of a targeted scan, whatever the path. -/
lemma queryOf_quote (scanPath : Str) : ∃ query value,
    queryOf ("?path=".toList ++ quote ['/'] scanPath) = some query ∧
      parameters query = [("path".toList, some value)] ∧ decode value = utf8 scanPath := by
  refine ⟨"path=".toList ++ quote ['/'] scanPath, quote ['/'] scanPath, ?_, ?_,
    decode_quote (by decide) scanPath⟩
  · have hhash : '#' ∉ "path=".toList ++ quote ['/'] scanPath := by
      rw [List.mem_append, not_or]
      exact ⟨by decide, notMem_quote (by decide) (by decide) scanPath⟩
    show some (List.takeWhile _ ("path=".toList ++ quote ['/'] scanPath)) = _
    rw [List.takeWhile_eq_self_iff.2]
    intro c hc
    exact decide_eq_true fun h => hhash (h ▸ hc)
  · have hamp : '&' ∉ "path=".toList ++ quote ['/'] scanPath := by
      rw [List.mem_append, not_or]
      exact ⟨by decide, notMem_quote (by decide) (by decide) scanPath⟩
    have hequals : '=' ∈ "path=".toList ++ quote ['/'] scanPath :=
      List.mem_append_left _ (by decide)
    unfold parameters
    rw [List.splitOn_eq_singleton hamp, List.map_singleton, parameter, if_pos hequals]
    rfl

variable (out : Outside) (server : ServerRuntime) (req : ScanRequest)

lemma plex_url (libraryId scanPath : Str) :
    plexAdapter.triggerUrl out server (req.targeting libraryId scanPath) =
      RestAdapter.base server ++ '/' :: ("library/sections".toList ++ '/' :: (libraryId ++
        ("/refresh".toList ++ ("?path=".toList ++ quote ['/'] scanPath)))) := by
  show RestAdapter.base server ++ ("/library/sections/".toList ++ libraryId ++ "/refresh".toList ++
    "?path=".toList ++ quote ['/'] scanPath) = _
  simp [List.append_assoc]

lemma emby_url (libraryId : Str) :
    embyAdapter.triggerUrl out server { req with libraryId := some libraryId } =
      RestAdapter.base server ++ '/' :: ("Items".toList ++ '/' :: (libraryId ++
        "/Refresh?Recursive=true".toList)) := by
  show RestAdapter.base server ++ ("/Items/".toList ++ libraryId ++
    "/Refresh?Recursive=true".toList) = _
  simp

lemma jellyfin_url (libraryId : Str) :
    jellyfinAdapter.triggerUrl out server { req with libraryId := some libraryId } =
      RestAdapter.base server ++ '/' :: ("Items".toList ++ '/' :: (libraryId ++
        "/Refresh?Recursive=true&metadataRefreshMode=Default&imageRefreshMode=Default".toList)) := by
  show RestAdapter.base server ++ ("/Items/".toList ++ libraryId ++
    "/Refresh?Recursive=true&metadataRefreshMode=Default&imageRefreshMode=Default".toList) = _
  simp

lemma audiobookshelf_url (libraryId : Str) :
    audiobookshelfAdapter.triggerUrl out server { req with libraryId := some libraryId } =
      RestAdapter.base server ++ '/' :: ("api/libraries".toList ++ '/' :: (libraryId ++
        "/scan".toList)) := by
  show RestAdapter.base server ++ ("/api/libraries/".toList ++ libraryId ++ "/scan".toList) = _
  simp

lemma plex_targets_iff (hb : IsBase (RestAdapter.base server)) (libraryId scanPath : Str) :
    Targets (RestAdapter.base server)
        (plexAdapter.triggerUrl out server (req.targeting libraryId scanPath))
        ["library".toList, "sections".toList] ["refresh".toList] libraryId ↔
      Literal libraryId := by
  rw [plex_url]
  exact targets_iff hb "library/sections".toList "refresh".toList (isPathEnd_iff.2 (by decide))
    (by decide) rfl (by decide) (by decide)

/-- The path to scan arrives behind every library id that does not end the path. -/
lemma plex_scansPath (hb : IsBase (RestAdapter.base server)) (hq : '?' ∉ libraryId)
    (hh : '#' ∉ libraryId) (scanPath : Str) :
    ScansPath (plexAdapter.triggerUrl out server (req.targeting libraryId scanPath)) scanPath := by
  have hpre : ∀ c ∈ "library/sections".toList, isPathEnd c = false :=
    isPathEnd_iff.2 (by decide)
  have hrefresh : ∀ c ∈ "/refresh".toList, isPathEnd c = false :=
    isPathEnd_iff.2 (by decide)
  obtain ⟨query, value, hquery, hparameters, hvalue⟩ := queryOf_quote scanPath
  refine ⟨query, value, ?_, hparameters, hvalue⟩
  rw [plex_url, parse_append hb (isTail_trigger (by decide) _)]
  show queryOf _ = some query
  rw [queryOf_trigger hpre, queryOf_append (isPathEnd_iff.2 ⟨hq, hh⟩), queryOf_append hrefresh, hquery]

/-- A trigger's URL leads to the library, and to the path of a targeted scan, exactly when the
library id is literal. -/
theorem targets_decoded_iff (hq : '?' ∉ server.baseUrl) (hh : '#' ∉ server.baseUrl)
    (libraryId scanPath : Str) :
    ((Targets (RestAdapter.base server)
          (plexAdapter.triggerUrl out server (req.targeting libraryId scanPath))
          ["library".toList, "sections".toList] ["refresh".toList] libraryId ∧
        ScansPath (plexAdapter.triggerUrl out server (req.targeting libraryId scanPath)) scanPath) ↔
          Literal libraryId) ∧
      (Targets (RestAdapter.base server)
          (embyAdapter.triggerUrl out server { req with libraryId := some libraryId })
          ["Items".toList] ["Refresh".toList] libraryId ↔ Literal libraryId) ∧
      (Targets (RestAdapter.base server)
          (jellyfinAdapter.triggerUrl out server { req with libraryId := some libraryId })
          ["Items".toList] ["Refresh".toList] libraryId ↔ Literal libraryId) ∧
      (Targets (RestAdapter.base server)
          (audiobookshelfAdapter.triggerUrl out server { req with libraryId := some libraryId })
          ["api".toList, "libraries".toList] ["scan".toList] libraryId ↔ Literal libraryId) := by
  have hb := isBase_base hq hh
  refine ⟨?_, ?_, ?_, ?_⟩
  · have htargets := plex_targets_iff out server req hb libraryId scanPath
    exact ⟨fun h => htargets.1 h.1,
      fun h => ⟨htargets.2 h, plex_scansPath out server req hb h.question h.hash scanPath⟩⟩
  · rw [emby_url]
    exact targets_iff hb "Items".toList "Refresh".toList (isPathEnd_iff.2 (by decide)) (by decide) rfl
      (by decide) (by decide)
  · rw [jellyfin_url]
    exact targets_iff hb "Items".toList "Refresh".toList (isPathEnd_iff.2 (by decide)) (by decide) rfl
      (by decide) (by decide)
  · rw [audiobookshelf_url]
    exact targets_iff hb "api/libraries".toList "scan".toList (isPathEnd_iff.2 (by decide))
      (by decide) rfl (by decide) (by decide)

/-- A server that cannot be reached. -/
def unreachable : Outside where
  exchange _ _ := .error ⟨⟨"ConnectError".toList, .transport⟩, [], "ConnectError('')".toList⟩
  render template _ := .ok template
  loads _ := .ok (.object [])
  encode _ := .ok []
  quote := quote ['/']
  upper := id

def plexRuntime : ServerRuntime where
  serverId := 1
  name := "plex".toList
  type := .plex
  baseUrl := "http://plex:32400/".toList
  secret := some "token".toList
  scanMode := .targeted
  debounceMode := .trailing
  debounceWindowSeconds := 30
  retryAttempts := 3
  webhookMethod := none
  webhookHeadersJson := none
  webhookBodyTemplate := none
  webhookPayloadPreset := .custom

/-- A new episode. -/
def episodeScan : ScanRequest where
  serverId := 1
  serverName := "plex".toList
  scanMode := .targeted
  scanPath := none
  libraryId := none
  scanKey := "/tv/A & B?".toList
  eventType := .created
  filePath := "/tv/A & B?/1.mkv".toList
  topFolder := some "A & B?".toList

theorem targets_decoded_iff_plex :
    plexAdapter.triggerUrl unreachable plexRuntime
        (episodeScan.targeting "1".toList "/tv/A & B?".toList) =
      "http://plex:32400/library/sections/1/refresh?path=/tv/A%20%26%20B%3F".toList ∧
    Targets "http://plex:32400".toList
        (plexAdapter.triggerUrl unreachable plexRuntime
          (episodeScan.targeting "1".toList "/tv/A & B?".toList))
        ["library".toList, "sections".toList] ["refresh".toList] "1".toList ∧
      ScansPath
        (plexAdapter.triggerUrl unreachable plexRuntime
          (episodeScan.targeting "1".toList "/tv/A & B?".toList))
        "/tv/A & B?".toList :=
  ⟨by decide,
    (targets_decoded_iff unreachable plexRuntime episodeScan (by decide) (by decide) "1".toList
      "/tv/A & B?".toList).1.2 ⟨by decide, by decide, by decide, rfl⟩⟩

/-- A library id with a slash makes two segments. -/
theorem library_not_targeted :
    '?' ∉ plexRuntime.baseUrl ∧ '#' ∉ plexRuntime.baseUrl ∧
      ¬ Targets (RestAdapter.base plexRuntime)
        (plexAdapter.triggerUrl unreachable plexRuntime
          (episodeScan.targeting "tv/uhd".toList "/tv/A & B?".toList))
        ["library".toList, "sections".toList] ["refresh".toList] "tv/uhd".toList := by
  have hq : '?' ∉ plexRuntime.baseUrl := by decide
  have hh : '#' ∉ plexRuntime.baseUrl := by decide
  refine ⟨hq, hh, fun h => ?_⟩
  have hliteral :=
    (plex_targets_iff unreachable plexRuntime episodeScan (isBase_base hq hh) _ _).1 h
  exact absurd hliteral.slash (by decide)

end MediaScanMonitor
