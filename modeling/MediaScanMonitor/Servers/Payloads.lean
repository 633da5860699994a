import MediaScanMonitor.Lib.Jinja
import MediaScanMonitor.Servers.Secrecy

/-!
# Payloads

What the webhook sends with its own templates: the default body and the two presets. Jinja2 and the
encoder are not modelled; `Rendering` says what they do with what these templates use.
-/

namespace MediaScanMonitor
open Text Json

/-- A value of the context, for the filter `tojson`. -/
def ContextValue.json : ContextValue → Value
  | .str s => .string s
  | .none => .null
  | .bool b => .bool b

namespace WebhookAdapter

/-- `_context`, for the templates. -/
def jsonContext (server : ServerRuntime) (req : ScanRequest) (isTest : Bool) :
    List (Str × Value) :=
  (context server req isTest).map fun item => (item.1, item.2.json)

/-- The bytes of ASCII. -/
def asciiBytes (s : Str) : List UInt8 :=
  s.map fun c => UInt8.ofNat c.toNat

/-- What a receiver makes of the content of a request. -/
def received (content : List UInt8) : Option Value :=
  loads (content.map fun b => Char.ofNat b.toNat)

/-- Jinja2 renders what `Jinja.render` renders, and ASCII is encoded as it is. -/
structure Rendering (out : Outside) : Prop where
  render : ∀ template server req isTest text,
    Jinja.render template (jsonContext server req isTest) = some text →
      out.render template (context server req isTest) = .ok text
  encode : ∀ text, (∀ c ∈ text, c.toNat < 128) → out.encode text = .ok (asciiBytes text)

/-- The template is not the operator's own. -/
def BuiltIn (server : ServerRuntime) : Prop :=
  server.webhookPayloadPreset = .custom → server.webhookBodyTemplate.getD [] = []

/-- `eventType` in the presets. -/
def eventType (isTest : Bool) : Value :=
  .string (if isTest then "Test".toList else "Download".toList)

/-- The members of the object that is sent. -/
def payload (server : ServerRuntime) (req : ScanRequest) (isTest : Bool) : List (Str × Value) :=
  match server.webhookPayloadPreset with
  | .custom =>
    [("event".toList, .string req.eventType.value),
      ("file_path".toList, .string req.filePath),
      ("scan_path".toList, (optional req.scanPath).json),
      ("top_folder".toList, (optional req.topFolder).json),
      ("library_id".toList, (optional req.libraryId).json),
      ("server".toList, .string server.name)]
  | .sonarrRadarr =>
    [("eventType".toList, eventType isTest),
      ("instanceName".toList, .string APP_NAME),
      ("file_path".toList, .string req.filePath)]
  | .mediaPreviewGenerator =>
    [("eventType".toList, eventType isTest), ("file_path".toList, .string req.filePath)]

/-! ## Templates -/

/-- The members of the default body. -/
def defaultFields : List (Str × Jinja.Expr) :=
  [("event".toList, .variable "event_type".toList),
    ("file_path".toList, .variable "file_path".toList),
    ("scan_path".toList, .variable "scan_path".toList),
    ("top_folder".toList, .variable "top_folder".toList),
    ("library_id".toList, .variable "library_id".toList),
    ("server".toList, .variable "server_name".toList)]

def eventTypeField : Str × Jinja.Expr :=
  ("eventType".toList, .choice "Test".toList "is_test".toList "Download".toList)

def filePathField : Str × Jinja.Expr :=
  ("file_path".toList, .variable "file_path".toList)

lemma scan_default : Jinja.scan false [] DEFAULT_BODY_TEMPLATE =
    some (Jinja.objectSegments ['\x7b'] defaultFields) := by
  delta DEFAULT_BODY_TEMPLATE
  simp only [String.toList_append]
  decide +kernel

lemma scan_sonarrRadarr : Jinja.scan false [] SONARR_RADARR_TEMPLATE =
    some (Jinja.objectSegments ['\x7b']
      [eventTypeField, ("instanceName".toList, .variable "app_name".toList), filePathField]) := by
  delta SONARR_RADARR_TEMPLATE
  simp only [String.toList_append]
  decide +kernel

lemma scan_mediaPreviewGenerator : Jinja.scan false [] MEDIA_PREVIEW_GENERATOR_TEMPLATE =
    some (Jinja.objectSegments ['\x7b'] [eventTypeField, filePathField]) := by
  delta MEDIA_PREVIEW_GENERATOR_TEMPLATE
  simp only [String.toList_append]
  decide +kernel

/-! ## Requests -/

section
variable {out : Outside} (server : ServerRuntime) (req : ScanRequest) (isTest : Bool)

lemma isSome_tojson (x : ContextValue) : (Jinja.tojson x.json).isSome = true := by
  cases x <;> rfl

lemma lookup_isTest :
    Jinja.lookup (jsonContext server req isTest) "is_test".toList = some (.bool isTest) := by
  simp only [jsonContext, context, List.map_cons, Jinja.lookup_cons_self, Jinja.lookup_cons_of_ne,
    ne_eq, String.toList_inj, String.reduceEq, not_false_eq_true, ContextValue.json]

lemma lookup_filePath :
    Jinja.lookup (jsonContext server req isTest) "file_path".toList =
      some (.string req.filePath) := by
  simp only [jsonContext, context, List.map_cons, Jinja.lookup_cons_self, Jinja.lookup_cons_of_ne,
    ne_eq, String.toList_inj, String.reduceEq, not_false_eq_true, ContextValue.json]

lemma lookup_appName :
    Jinja.lookup (jsonContext server req isTest) "app_name".toList = some (.string APP_NAME) := by
  simp only [jsonContext, context, List.map_cons, Jinja.lookup_cons_self, Jinja.lookup_cons_of_ne,
    ne_eq, String.toList_inj, String.reduceEq, not_false_eq_true, ContextValue.json]

lemma value_eventType :
    (Jinja.Expr.choice "Test".toList "is_test".toList "Download".toList).value
      (jsonContext server req isTest) = some (eventType isTest) := by
  rw [Jinja.Expr.value, lookup_isTest]
  rfl

lemma members_default :
    Jinja.Members (jsonContext server req isTest)
      [("event".toList, .string req.eventType.value),
        ("file_path".toList, .string req.filePath),
        ("scan_path".toList, (optional req.scanPath).json),
        ("top_folder".toList, (optional req.topFolder).json),
        ("library_id".toList, (optional req.libraryId).json),
        ("server".toList, .string server.name)] defaultFields := by
  refine .cons ⟨rfl, ?_⟩ (.cons ⟨rfl, ?_⟩ (.cons ⟨rfl, ?_⟩ (.cons ⟨rfl, ?_⟩ (.cons ⟨rfl, ?_⟩
    (.cons ⟨rfl, ?_⟩ .nil)))))
  all_goals simp only [Jinja.Expr.value, jsonContext, context, List.map_cons,
    Jinja.lookup_cons_self, Jinja.lookup_cons_of_ne, ne_eq, String.toList_inj, String.reduceEq,
    not_false_eq_true, ContextValue.json]

/-- All values are texts or `None`. -/
lemma plain_payload : Jinja.Plain (payload server req isTest) := by
  have hsome := isSome_tojson
  have hstring : ∀ s, (Jinja.tojson (.string s)).isSome = true := fun _ => rfl
  unfold payload
  split
  · simp only [Jinja.Plain, List.forall_mem_cons, hsome, hstring, true_and]
    exact List.forall_mem_nil _
  · simp only [Jinja.Plain, List.forall_mem_cons, eventType, hstring, true_and]
    exact List.forall_mem_nil _
  · simp only [Jinja.Plain, List.forall_mem_cons, eventType, hstring, true_and]
    exact List.forall_mem_nil _

lemma payload_ne : payload server req isTest ≠ [] := by
  unfold payload
  split <;> exact List.cons_ne_nil _ _

/-- The template is rendered to the text of the payload. -/
lemma render_template (h : BuiltIn server) :
    Jinja.render (template server) (jsonContext server req isTest) =
      some (Jinja.object (payload server req isTest)) := by
  have hplain := plain_payload server req isTest
  have hne := payload_ne server req isTest
  have heventType := value_eventType server req isTest
  have hfilePath := lookup_filePath server req isTest
  have happName := lookup_appName server req isTest
  cases hp : server.webhookPayloadPreset with
  | custom =>
    have htemplate : template server = DEFAULT_BODY_TEMPLATE := by
      rw [template, hp]
      exact if_pos (h hp)
    rw [payload, hp] at hplain hne ⊢
    rw [htemplate]
    exact Jinja.render_object scan_default (members_default server req isTest) hplain hne
  | sonarrRadarr =>
    rw [payload, hp] at hplain hne ⊢
    rw [template, hp]
    exact Jinja.render_object scan_sonarrRadarr (.cons ⟨rfl, heventType⟩ (.cons ⟨rfl, happName⟩
      (.cons ⟨rfl, hfilePath⟩ .nil))) hplain hne
  | mediaPreviewGenerator =>
    rw [payload, hp] at hplain hne ⊢
    rw [template, hp]
    exact Jinja.render_object scan_mediaPreviewGenerator
      (.cons ⟨rfl, heventType⟩ (.cons ⟨rfl, hfilePath⟩ .nil)) hplain hne

lemma decode_asciiBytes {s : Str} (h : ∀ c ∈ s, c.toNat < 128) :
    (asciiBytes s).map (fun b => Char.ofNat b.toNat) = s := by
  have hid : ∀ c ∈ s, ((fun b : UInt8 => Char.ofNat b.toNat) ∘ fun c : Char =>
      UInt8.ofNat c.toNat) c = id c := by
    intro c hc
    have hlt : c.toNat < 256 := (h c hc).trans (by decide)
    show Char.ofNat (UInt8.ofNat c.toNat).toNat = c
    rw [UInt8.toNat_ofNat', Nat.mod_eq_of_lt hlt, Char.ofNat_toNat]
  rw [asciiBytes, List.map_map, List.map_congr_left hid, List.map_id]

/-- How a request with this content ends. -/
def contentEnding (out : Outside) (server : ServerRuntime) (req : ScanRequest) (isTest : Bool)
    (content : List UInt8) : Ending :=
  if strip server.baseUrl = [] then .unsent
  else
    match headers out server (context server req isTest) with
    | .error exc => .rendering exc
    | .ok items =>
      .ofExchange (requestWithRetry out.exchange
        ⟨out.upper (orDefault server.webhookMethod "POST".toList), strip server.baseUrl, items,
          some content⟩ server.retryAttempts)

/-- The body is rendered and encoded to this content. -/
lemma ending_eq {body : Str} {content : List UInt8}
    (hbody : out.render (template server) (context server req isTest) = .ok body)
    (hcontent : out.encode body = .ok content) :
    ending out server req isTest = contentEnding out server req isTest content := by
  unfold ending contentEnding
  simp only [rendered, hbody]
  split
  · rfl
  · cases headers out server (context server req isTest) with
    | error exc => rfl
    | ok items =>
      show Ending.ofExchange (exchanged out server _ body items) = _
      rw [exchanged, hcontent]
      rfl

/-- With a template of its own the webhook sends an object with the values of the request, whatever
characters these hold and whatever the secret is. Neither rendering nor encoding the body fails, and
with a preset the receiver can tell a test from an event. -/
theorem payload_sent (hout : Rendering out) (h : BuiltIn server) :
    ∃ content, received content = some (.object (payload server req isTest)) ∧
      (∀ secret, send out { server with secret := secret } req isTest =
        (contentEnding out { server with secret := secret } req isTest content).result
          "webhook delivered".toList) ∧
      (server.webhookPayloadPreset ≠ .custom →
        (Value.object (payload server req isTest)).get "eventType".toList =
            some (eventType isTest) ∧
          (Value.object (payload server req isTest)).get "file_path".toList =
            some (.string req.filePath)) := by
  have hascii := Jinja.ascii_object (plain_payload server req isTest)
  refine ⟨asciiBytes (Jinja.object (payload server req isTest)), ?_, fun secret => ?_,
    fun hp => ?_⟩
  · rw [received, decode_asciiBytes hascii]
    exact Jinja.loads_object (plain_payload server req isTest) (payload_ne server req isTest)
  · rw [send_eq, ending_eq _ req isTest ?_ (hout.encode _ hascii)]
    apply hout.render
    exact render_template { server with secret := secret } req isTest h
  · cases hpreset : server.webhookPayloadPreset with
    | custom => exact absurd hpreset hp
    | sonarrRadarr =>
      rw [payload, hpreset]
      simp only [Value.get_object, List.reverse_cons, List.reverse_nil, List.nil_append,
        List.cons_append, List.find?_cons, String.toList_inj, String.reduceEq, decide_true,
        decide_false, Option.map_some, and_self]
    | mediaPreviewGenerator =>
      rw [payload, hpreset]
      simp only [Value.get_object, List.reverse_cons, List.reverse_nil, List.nil_append,
        List.cons_append, List.find?_cons, String.toList_inj, String.reduceEq, decide_true,
        decide_false, Option.map_some, and_self]

/-- Jinja2 for templates that `Jinja.render` renders, an encoder for ASCII, and a receiver that is
always content. -/
def asciiOutside : Outside where
  exchange _ _ := .ok ⟨200⟩
  render template ctx :=
    match Jinja.render template (ctx.map fun item => (item.1, item.2.json)) with
    | some text => .ok text
    | none => .error ⟨⟨"TemplateError".toList, .template⟩, [], []⟩
  loads _ := .ok (.object [])
  encode s := .ok (asciiBytes s)
  quote s := s
  upper s := s

lemma rendering_asciiOutside : Rendering asciiOutside where
  render template server req isTest text h := by
    show (match Jinja.render template (jsonContext server req isTest) with
      | some text => Except.ok text
      | none => .error _) = .ok text
    rw [h]
  encode _ _ := rfl

/-- A path with a quotation mark and markup, to a server with the default body. -/
theorem payload_sent_markup :
    ∃ (server : ServerRuntime) (req : ScanRequest) (content : List UInt8),
      req.filePath = "/m/\"<b>&'é".toList ∧
      received content = some (.object (payload server req false)) ∧
      send asciiOutside server req false = .ok ⟨true, some 200, "webhook delivered".toList⟩ := by
  let server : ServerRuntime :=
    { serverId := 1, name := "hook".toList, type := .webhook, baseUrl := "http://h".toList,
      secret := some "s".toList, scanMode := .targeted, debounceMode := .off,
      debounceWindowSeconds := 0, retryAttempts := 1, webhookMethod := none,
      webhookHeadersJson := none, webhookBodyTemplate := some [], webhookPayloadPreset := .custom }
  let req : ScanRequest :=
    { probe server with filePath := "/m/\"<b>&'é".toList }
  obtain ⟨content, hcontent, hsend, -⟩ :=
    payload_sent server req false rendering_asciiOutside fun _ => rfl
  refine ⟨server, req, content, rfl, hcontent, ?_⟩
  rw [hsend (some "s".toList)]
  rfl

end

end WebhookAdapter
end MediaScanMonitor
