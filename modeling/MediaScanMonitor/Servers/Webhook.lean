import MediaScanMonitor.Servers.Base

/-!
# The webhook

`servers/webhook.py` and `servers/webhook_presets.py`. Body and header values are Jinja2 templates
that are rendered with the secret in their context.
-/

namespace MediaScanMonitor
open Text

/-- `APP_NAME`. -/
def APP_NAME : Str := "media-scan-monitor".toList

/-- `DEFAULT_BODY_TEMPLATE`. -/
def DEFAULT_BODY_TEMPLATE : Str :=
  ("\x7b\n" ++
    "  \"event\": \x7b\x7b event_type | tojson \x7d\x7d,\n" ++
    "  \"file_path\": \x7b\x7b file_path | tojson \x7d\x7d,\n" ++
    "  \"scan_path\": \x7b\x7b scan_path | tojson \x7d\x7d,\n" ++
    "  \"top_folder\": \x7b\x7b top_folder | tojson \x7d\x7d,\n" ++
    "  \"library_id\": \x7b\x7b library_id | tojson \x7d\x7d,\n" ++
    "  \"server\": \x7b\x7b server_name | tojson \x7d\x7d\n" ++
    "\x7d").toList

/-- `_SONARR_RADARR_TEMPLATE`. -/
def SONARR_RADARR_TEMPLATE : Str :=
  ("\x7b\n" ++
    "  \"eventType\": \x7b\x7b (\"Test\" if is_test else \"Download\") | tojson \x7d\x7d,\n" ++
    "  \"instanceName\": \x7b\x7b app_name | tojson \x7d\x7d,\n" ++
    "  \"file_path\": \x7b\x7b file_path | tojson \x7d\x7d\n" ++
    "\x7d").toList

/-- `_MEDIA_PREVIEW_GENERATOR_TEMPLATE`. -/
def MEDIA_PREVIEW_GENERATOR_TEMPLATE : Str :=
  ("\x7b\n" ++
    "  \"eventType\": \x7b\x7b (\"Test\" if is_test else \"Download\") | tojson \x7d\x7d,\n" ++
    "  \"file_path\": \x7b\x7b file_path | tojson \x7d\x7d\n" ++
    "\x7d").toList

/-- `x or default` on an optional text. -/
def orDefault (x : Option Str) (default : Str) : Str :=
  if x.getD [] = [] then default else x.getD []

/-- `headers[key] = value`. -/
def setItem (headers : List (Str × Str)) (key value : Str) : List (Str × Str) :=
  if headers.any fun item => item.1 = key then
    headers.map fun item => if item.1 = key then (key, value) else item
  else headers ++ [(key, value)]

namespace WebhookAdapter

/-- An optional text in a context. -/
def optional : Option Str → ContextValue
  | none => .none
  | some s => .str s

/-- `_context`. -/
def context (server : ServerRuntime) (req : ScanRequest) (isTest : Bool) :
    List (Str × ContextValue) :=
  [("event_type".toList, .str req.eventType.value),
    ("file_path".toList, .str req.filePath),
    ("host_path".toList, .str req.filePath),
    ("scan_path".toList, optional req.scanPath),
    ("top_folder".toList, optional req.topFolder),
    ("library_id".toList, optional req.libraryId),
    ("server_name".toList, .str server.name),
    ("app_name".toList, .str APP_NAME),
    ("secret".toList, .str (server.secret.getD [])),
    ("is_test".toList, .bool isTest)]

/-- The template of the body. -/
def template (server : ServerRuntime) : Str :=
  match server.webhookPayloadPreset with
  | .custom => orDefault server.webhookBodyTemplate DEFAULT_BODY_TEMPLATE
  | .sonarrRadarr => SONARR_RADARR_TEMPLATE
  | .mediaPreviewGenerator => MEDIA_PREVIEW_GENERATOR_TEMPLATE

/-- The exception that `_headers` raises itself. -/
def notAnObject : Exn where
  cls := ⟨"ValueError".toList, .value⟩
  text := "webhook_headers_json must be a JSON object".toList
  repr := "ValueError('webhook_headers_json must be a JSON object')".toList

/-- `_headers`. -/
def headers (out : Outside) (server : ServerRuntime) (ctx : List (Str × ContextValue)) :
    Except Exn (List (Str × Str)) := do
  match ← out.loads (orDefault server.webhookHeadersJson "\x7b\x7d".toList) with
  | .other => throw notAnObject
  | .object items =>
    items.foldlM
      (fun headers item => do
        let value ← out.render item.2 ctx
        pure (setItem headers item.1 value))
      [("Content-Type".toList, "application/json".toList)]

/-- Body and headers, rendered in this order. -/
def rendered (out : Outside) (server : ServerRuntime) (ctx : List (Str × ContextValue)) :
    Except Exn (Str × List (Str × Str)) := do
  let body ← out.render (template server) ctx
  let headers ← headers out server ctx
  pure (body, headers)

/-- The request for what is rendered, and its exchange. -/
def exchanged (out : Outside) (server : ServerRuntime) (url body : Str)
    (headers : List (Str × Str)) : Except Exn Response := do
  let content ← out.encode body
  let method := out.upper (orDefault server.webhookMethod "POST".toList)
  requestWithRetry out.exchange ⟨method, url, headers, some content⟩ server.retryAttempts

/-- The exceptions of the first `try`. -/
def catchesRendering (exc : Exn) : Bool :=
  exc.cls.family = .template || exc.cls.family = .value

/-- `_send`. -/
def send (out : Outside) (server : ServerRuntime) (req : ScanRequest) (isTest : Bool) :
    Except Exn TriggerResult :=
  let url := strip server.baseUrl
  if url = [] then .ok ⟨false, none, "webhook url (base_url) is empty".toList⟩
  else
    match rendered out server (context server req isTest) with
    -- only the first `try` catches what rendering raises
    | .error exc => if catchesRendering exc then .ok ⟨false, none, exc.detail⟩ else .error exc
    | .ok (body, headers) =>
      match exchanged out server url body headers with
      | .error exc => if exc.isHttp then .ok ⟨false, none, exc.detail⟩ else .error exc
      | .ok resp =>
        if resp.isSuccess then .ok ⟨true, some resp.statusCode, "webhook delivered".toList⟩
        else .ok ⟨false, some resp.statusCode, resp.detail⟩

/-- `trigger`. -/
def trigger (out : Outside) (server : ServerRuntime) (req : ScanRequest) :
    Except Exn TriggerResult :=
  send out server req false

/-- The request that `test` sends. -/
def probe (server : ServerRuntime) : ScanRequest where
  serverId := server.serverId
  serverName := server.name
  scanMode := server.scanMode
  scanPath := none
  libraryId := none
  scanKey := "test".toList
  eventType := .created
  filePath := "/__msm_test__".toList
  topFolder := none

/-- What `test` makes of a result. -/
def testResult (result : TriggerResult) : TestResult :=
  if result.ok then ⟨true, "reachable".toList⟩
  else
    match result.statusCode with
    | some statusCode => ⟨false, Response.detail ⟨statusCode⟩⟩
    | none => ⟨false, result.detail⟩

/-- `test`. -/
def test (out : Outside) (server : ServerRuntime) : Except Exn TestResult :=
  (send out server (probe server) true).map testResult

end WebhookAdapter
end MediaScanMonitor
