import MediaScanMonitor.Servers.Base

/-!
# The media servers

`servers/plex.py`, `emby.py`, `jellyfin.py` and `audiobookshelf.py`. The four adapters differ in
their URLs, their header and the text of a success; `RestAdapter` has the rest.
-/

namespace MediaScanMonitor
open Text

/-- What a media server's adapter sends, and says of a success. -/
structure RestAdapter where
  method : Str
  /-- The URL of a trigger, after the base. -/
  refresh : (quote : Str → Str) → ScanRequest → Str
  /-- The URL of a test, after the base. -/
  probe : Str
  /-- The header that carries the secret. -/
  header : (secret : Str) → Str × Str
  triggered : Str

def plexAdapter : RestAdapter where
  method := "GET".toList
  refresh quote req :=
    let url := "/library/sections/".toList ++ showOption req.libraryId ++ "/refresh".toList
    match req.scanMode, req.scanPath with
    | .targeted, some scanPath => url ++ "?path=".toList ++ quote scanPath
    | _, _ => url
  probe := "/identity".toList
  header secret := ("X-Plex-Token".toList, secret)
  triggered := "Plex scan triggered".toList

def embyAdapter : RestAdapter where
  method := "POST".toList
  refresh _ req := "/Items/".toList ++ showOption req.libraryId ++ "/Refresh?Recursive=true".toList
  probe := "/System/Info".toList
  header secret := ("X-Emby-Token".toList, secret)
  triggered := "Emby refresh triggered".toList

def jellyfinAdapter : RestAdapter where
  method := "POST".toList
  refresh _ req := "/Items/".toList ++ showOption req.libraryId ++
    "/Refresh?Recursive=true&metadataRefreshMode=Default&imageRefreshMode=Default".toList
  probe := "/System/Info".toList
  header secret := ("Authorization".toList, "MediaBrowser Token=\"".toList ++ secret ++ "\"".toList)
  triggered := "Jellyfin refresh triggered".toList

def audiobookshelfAdapter : RestAdapter where
  method := "POST".toList
  refresh _ req := "/api/libraries/".toList ++ showOption req.libraryId ++ "/scan".toList
  probe := "/api/me".toList
  header secret := ("Authorization".toList, "Bearer ".toList ++ secret)
  triggered := "Audiobookshelf scan triggered".toList

namespace RestAdapter

/-- `base_url.rstrip("/")`. -/
def base (server : ServerRuntime) : Str :=
  rstripChar server.baseUrl '/'

/-- `_headers`. -/
def headers (a : RestAdapter) (server : ServerRuntime) : List (Str × Str) :=
  [a.header (server.secret.getD [])]

/-- The request of a trigger. -/
def triggerRequest (a : RestAdapter) (out : Outside) (server : ServerRuntime) (req : ScanRequest) :
    Request :=
  ⟨a.method, base server ++ a.refresh out.quote req, a.headers server, none⟩

/-- The request of a test. -/
def testRequest (a : RestAdapter) (server : ServerRuntime) : Request :=
  ⟨"GET".toList, base server ++ a.probe, a.headers server, none⟩

/-- `trigger`. -/
def trigger (a : RestAdapter) (out : Outside) (server : ServerRuntime) (req : ScanRequest) :
    Except Exn TriggerResult :=
  match requestWithRetry out.exchange (a.triggerRequest out server req) server.retryAttempts with
  | .error exc => if exc.isHttp then .ok ⟨false, none, exc.detail⟩ else .error exc
  | .ok resp =>
    if resp.isSuccess then .ok ⟨true, some resp.statusCode, a.triggered⟩
    else .ok ⟨false, some resp.statusCode, resp.detail⟩

/-- `test`. -/
def test (a : RestAdapter) (out : Outside) (server : ServerRuntime) : Except Exn TestResult :=
  match requestWithRetry out.exchange (a.testRequest server) 1 with
  | .error exc => if exc.isHttp then .ok ⟨false, exc.detail⟩ else .error exc
  | .ok resp => if resp.isSuccess then .ok ⟨true, "reachable".toList⟩ else .ok ⟨false, resp.detail⟩

end RestAdapter
end MediaScanMonitor
