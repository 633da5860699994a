import MediaScanMonitor.Pipeline.Dispatcher

/-!
# Secrets in what is observed

Two runs that differ in the secrets alone. An adapter makes its result of how its request ends, an
`Ending`. Of an exception it shows the text, and there the secret can be quoted.
-/

namespace MediaScanMonitor
open Text Dispatcher

/-- How the request of an adapter ends. -/
inductive Ending
  /-- There is no URL to send it to. -/
  | unsent
  | rendering (exc : Exn)
  | sending (exc : Exn)
  | response (resp : Response)

/-- The kind of an ending. -/
inductive Outcome
  | unsent
  | rendering (cls : ExnClass)
  | sending (cls : ExnClass)
  | response (statusCode : Nat)
deriving DecidableEq

namespace Ending

def outcome : Ending → Outcome
  | .unsent => .unsent
  | .rendering exc => .rendering exc.cls
  | .sending exc => .sending exc.cls
  | .response resp => .response resp.statusCode

/-- How an exchange ends. -/
def ofExchange : Except Exn Response → Ending
  | .ok resp => .response resp
  | .error exc => .sending exc

/-- The result that an adapter makes of an ending. -/
def result (success : Str) : Ending → Except Exn TriggerResult
  | .unsent => .ok ⟨false, none, "webhook url (base_url) is empty".toList⟩
  | .rendering exc =>
    if WebhookAdapter.catchesRendering exc then .ok ⟨false, none, exc.detail⟩ else .error exc
  | .sending exc => if exc.isHttp then .ok ⟨false, none, exc.detail⟩ else .error exc
  | .response resp =>
    if resp.isSuccess then .ok ⟨true, some resp.statusCode, success⟩
    else .ok ⟨false, some resp.statusCode, resp.detail⟩

/-- The text of an exception that a test shows. -/
def shownInTest : Ending → Option Str
  | .rendering exc => if WebhookAdapter.catchesRendering exc then some exc.text else none
  | .sending exc => if exc.isHttp then some exc.text else none
  | _ => none

/-- The text of an exception that a dispatch shows. -/
def shown : Ending → Option Str
  | .rendering exc => some (if WebhookAdapter.catchesRendering exc then exc.text else exc.repr)
  | .sending exc => some (if exc.isHttp then exc.text else exc.repr)
  | _ => none

end Ending

namespace Ending

/-- What is caught depends on the class alone. -/
lemma caught_congr {exc exc' : Exn} (h : exc.cls = exc'.cls) :
    WebhookAdapter.catchesRendering exc = WebhookAdapter.catchesRendering exc' ∧
      exc.isHttp = exc'.isHttp := by
  unfold WebhookAdapter.catchesRendering Exn.isHttp
  rw [h]
  exact ⟨rfl, rfl⟩

lemma detail_eq_iff {exc exc' : Exn} (h : exc.cls = exc'.cls) :
    exc.detail = exc'.detail ↔ exc.text = exc'.text := by
  rw [Exn.detail, Exn.detail, h]
  exact List.append_right_inj _

/-- An exception that an adapter catches or not, as a dispatch shows it. -/
lemma isolate_eq_iff {exc exc' : Exn} (h : exc.cls = exc'.cls) (caught : Bool) :
    isolate (if caught then .ok ⟨false, none, exc.detail⟩ else .error exc) =
        isolate (if caught then .ok ⟨false, none, exc'.detail⟩ else .error exc') ↔
      (if caught then exc.text else exc.repr) = if caught then exc'.text else exc'.repr := by
  cases caught with
  | true =>
    show TriggerResult.mk false none exc.detail = ⟨false, none, exc'.detail⟩ ↔ exc.text = exc'.text
    rw [← detail_eq_iff h]
    exact ⟨fun he => congrArg TriggerResult.detail he, fun he => by rw [he]⟩
  | false =>
    show TriggerResult.mk false none ("adapter raised: ".toList ++ exc.repr) =
      ⟨false, none, "adapter raised: ".toList ++ exc'.repr⟩ ↔ exc.repr = exc'.repr
    constructor
    · intro he
      apply List.append_cancel_left
      exact congrArg TriggerResult.detail he
    · intro he
      rw [he]

/-- An exception that an adapter catches or not, as a test shows it. -/
lemma testResult_eq_iff {exc exc' : Exn} (h : exc.cls = exc'.cls) (caught : Bool) :
    ((if caught then Except.ok ⟨false, none, exc.detail⟩ else .error exc).map
          WebhookAdapter.testResult).toOption =
        ((if caught then Except.ok ⟨false, none, exc'.detail⟩ else .error exc').map
          WebhookAdapter.testResult).toOption ↔
      (if caught then some exc.text else none) = if caught then some exc'.text else none := by
  cases caught with
  | true =>
    show some (TestResult.mk false exc.detail) = some ⟨false, exc'.detail⟩ ↔
      some exc.text = some exc'.text
    rw [Option.some_inj, Option.some_inj, ← detail_eq_iff h]
    exact ⟨fun he => congrArg TestResult.detail he, fun he => by rw [he]⟩
  | false => exact iff_of_true rfl rfl

/-- Endings of the same kind are the same, or both are exceptions. -/
lemma outcome_cases {e e' : Ending} (h : e.outcome = e'.outcome) :
    e = e' ∨
      (∃ exc exc', e = .rendering exc ∧ e' = .rendering exc' ∧ exc.cls = exc'.cls) ∨
      ∃ exc exc', e = .sending exc ∧ e' = .sending exc' ∧ exc.cls = exc'.cls := by
  cases e <;> cases e' <;> try cases h
  case unsent.unsent => exact .inl rfl
  case rendering.rendering exc exc' =>
    injection h with h
    exact .inr (.inl ⟨exc, exc', rfl, rfl, h⟩)
  case sending.sending exc exc' =>
    injection h with h
    exact .inr (.inr ⟨exc, exc', rfl, rfl, h⟩)
  case response.response resp resp' =>
    cases resp
    cases resp'
    injection h with h
    cases h
    exact .inl rfl

/-- Dispatches that end in the same kind show the same if and only if they show the same texts. -/
lemma dispatched_eq_iff {e e' : Ending} (success : Str) (h : e.outcome = e'.outcome) :
    isolate (e.result success) = isolate (e'.result success) ↔ e.shown = e'.shown := by
  obtain he | ⟨exc, exc', he, he', hc⟩ | ⟨exc, exc', he, he', hc⟩ := outcome_cases h
  · rw [he]
    exact iff_of_true rfl rfl
  · rw [he, he', result, result, shown, shown, (caught_congr hc).1, Option.some_inj]
    exact isolate_eq_iff hc _
  · rw [he, he', result, result, shown, shown, (caught_congr hc).2, Option.some_inj]
    exact isolate_eq_iff hc _

/-- The same for tests. -/
lemma tested_eq_iff {e e' : Ending} (success : Str) (h : e.outcome = e'.outcome) :
    ((e.result success).map WebhookAdapter.testResult).toOption =
        ((e'.result success).map WebhookAdapter.testResult).toOption ↔
      e.shownInTest = e'.shownInTest := by
  obtain he | ⟨exc, exc', he, he', hc⟩ | ⟨exc, exc', he, he', hc⟩ := outcome_cases h
  · rw [he]
    exact iff_of_true rfl rfl
  · rw [he, he', result, result, shownInTest, shownInTest, (caught_congr hc).1]
    exact testResult_eq_iff hc _
  · rw [he, he', result, result, shownInTest, shownInTest, (caught_congr hc).2]
    exact testResult_eq_iff hc _

end Ending

lemma RestAdapter.trigger_eq (a : RestAdapter) (out : Outside) (server : ServerRuntime)
    (req : ScanRequest) :
    a.trigger out server req =
      (Ending.ofExchange (requestWithRetry out.exchange (a.triggerRequest out server req)
        server.retryAttempts)).result a.triggered := by
  unfold trigger
  cases requestWithRetry out.exchange (a.triggerRequest out server req) server.retryAttempts with
  | ok resp => rfl
  | error exc => rfl

/-- A test makes of its ending what the webhook's makes of a result. -/
lemma RestAdapter.test_eq (a : RestAdapter) (out : Outside) (server : ServerRuntime)
    (success : Str) :
    a.test out server =
      ((Ending.ofExchange (requestWithRetry out.exchange (a.testRequest server) 1)).result
        success).map WebhookAdapter.testResult := by
  unfold test
  cases requestWithRetry out.exchange (a.testRequest server) 1 with
  | ok resp =>
    show (if resp.isSuccess then _ else _) = Except.map _ (if resp.isSuccess then _ else _)
    split
    · rfl
    · rfl
  | error exc =>
    show (if exc.isHttp then _ else _) = Except.map _ (if exc.isHttp then _ else _)
    split
    · rfl
    · rfl

/-- How `_send` of the webhook ends. -/
def WebhookAdapter.ending (out : Outside) (server : ServerRuntime) (req : ScanRequest)
    (isTest : Bool) : Ending :=
  let url := strip server.baseUrl
  if url = [] then .unsent
  else
    match rendered out server (context server req isTest) with
    | .error exc => .rendering exc
    | .ok (body, headers) => .ofExchange (exchanged out server url body headers)

lemma WebhookAdapter.send_eq (out : Outside) (server : ServerRuntime) (req : ScanRequest)
    (isTest : Bool) :
    send out server req isTest =
      (ending out server req isTest).result "webhook delivered".toList := by
  unfold send ending
  simp only
  by_cases hu : strip server.baseUrl = []
  · rw [if_pos hu, if_pos hu]
    rfl
  · rw [if_neg hu, if_neg hu]
    cases rendered out server (context server req isTest) with
    | error exc => rfl
    | ok parts =>
      show _ = (Ending.ofExchange (exchanged out server _ parts.1 parts.2)).result _
      simp only
      cases exchanged out server (strip server.baseUrl) parts.1 parts.2 with
      | ok resp => rfl
      | error exc => rfl

namespace ServerRuntime

/-- How a trigger of the server ends. -/
def triggerEnding (out : Outside) (server : ServerRuntime) (req : ScanRequest) : Ending :=
  match server.type.rest with
  | some a =>
    .ofExchange (requestWithRetry out.exchange (a.triggerRequest out server req)
      server.retryAttempts)
  | none => WebhookAdapter.ending out server req false

/-- How a test of the server ends. -/
def testEnding (out : Outside) (server : ServerRuntime) : Ending :=
  match server.type.rest with
  | some a => .ofExchange (requestWithRetry out.exchange (a.testRequest server) 1)
  | none => WebhookAdapter.ending out server (WebhookAdapter.probe server) true

/-- What the adapter of a server says of a success. -/
def success (type : ServerType) : Str :=
  match type.rest with
  | some a => a.triggered
  | none => "webhook delivered".toList

lemma trigger_eq (out : Outside) (server : ServerRuntime) (req : ScanRequest) :
    server.trigger out req = (server.triggerEnding out req).result (success server.type) := by
  unfold trigger triggerEnding success
  cases server.type.rest with
  | some a => exact a.trigger_eq out server req
  | none => exact WebhookAdapter.send_eq out server req false

lemma test_eq (out : Outside) (server : ServerRuntime) :
    server.test out =
      ((server.testEnding out).result (success server.type)).map WebhookAdapter.testResult := by
  unfold test testEnding success
  cases server.type.rest with
  | some a => exact a.test_eq out server a.triggered
  | none =>
    show (WebhookAdapter.send out server _ true).map _ = _
    rw [WebhookAdapter.send_eq]

end ServerRuntime

/-- The same adapter with another secret for its server. -/
def Adapter.withSecret (secrets : Nat → Option Str) (a : Adapter) : Adapter :=
  { a with server := { a.server with secret := secrets a.server.serverId } }

/-- What a dispatch and a test of every adapter show. -/
structure Observed where
  result : TriggerResult
  record : EventRecord
  /-- Nothing for a test that raises. -/
  tests : List (Option TestResult)
deriving DecidableEq

section Runs
variable (out : Outside) (adapters : List Adapter) (ts : Str) (req : ScanRequest)

def observe : Observed where
  result := dispatch out adapters req
  record := .of ts req (dispatch out adapters req)
  tests := adapters.map fun a => (a.server.test out).toOption

/-- How the trigger of a dispatch ends, when there is one. -/
def triggered : Option Ending :=
  (lookup adapters req.serverId).map fun a => a.server.triggerEnding out req

/-- How the tests end. -/
def tested : List Ending :=
  adapters.map fun a => a.server.testEnding out

/-- Both runs end in the same kinds. -/
def SameOutcomes (a b : Nat → Option Str) : Prop :=
  (triggered out (adapters.map (Adapter.withSecret a)) req).map Ending.outcome =
      (triggered out (adapters.map (Adapter.withSecret b)) req).map Ending.outcome ∧
    (tested out (adapters.map (Adapter.withSecret a))).map Ending.outcome =
      (tested out (adapters.map (Adapter.withSecret b))).map Ending.outcome

/-- The exceptions that both runs end in have the same texts, where these are shown. -/
def SameTexts (a b : Nat → Option Str) : Prop :=
  (triggered out (adapters.map (Adapter.withSecret a)) req).map Ending.shown =
      (triggered out (adapters.map (Adapter.withSecret b)) req).map Ending.shown ∧
    (tested out (adapters.map (Adapter.withSecret a))).map Ending.shownInTest =
      (tested out (adapters.map (Adapter.withSecret b))).map Ending.shownInTest

end Runs

lemma lookup_withSecret (secrets : Nat → Option Str) (adapters : List Adapter) (serverId : Nat) :
    lookup (adapters.map (Adapter.withSecret secrets)) serverId =
      (lookup adapters serverId).map (Adapter.withSecret secrets) := by
  unfold lookup
  rw [List.find?_map]
  rfl

/-- Dispatches that end in the same kind. -/
lemma dispatch_eq_iff {out : Outside} {adapters : List Adapter} {req : ScanRequest}
    {a b : Nat → Option Str}
    (h : (triggered out (adapters.map (Adapter.withSecret a)) req).map Ending.outcome =
      (triggered out (adapters.map (Adapter.withSecret b)) req).map Ending.outcome) :
    dispatch out (adapters.map (Adapter.withSecret a)) req =
        dispatch out (adapters.map (Adapter.withSecret b)) req ↔
      (triggered out (adapters.map (Adapter.withSecret a)) req).map Ending.shown =
        (triggered out (adapters.map (Adapter.withSecret b)) req).map Ending.shown := by
  unfold triggered at h ⊢
  unfold dispatch
  rw [lookup_withSecret, lookup_withSecret] at h ⊢
  cases hl : lookup adapters req.serverId with
  | none => exact iff_of_true rfl rfl
  | some adapter =>
    rw [hl] at h
    have hk := Option.some.inj h
    show isolate ((adapter.withSecret a).server.trigger out req) =
        isolate ((adapter.withSecret b).server.trigger out req) ↔ some _ = some _
    rw [ServerRuntime.trigger_eq, ServerRuntime.trigger_eq, Option.some_inj]
    exact Ending.dispatched_eq_iff _ hk

/-- Tests that end in the same kinds. -/
lemma tests_eq_iff {out : Outside} {adapters : List Adapter} {a b : Nat → Option Str}
    (h : (tested out (adapters.map (Adapter.withSecret a))).map Ending.outcome =
      (tested out (adapters.map (Adapter.withSecret b))).map Ending.outcome) :
    (adapters.map (Adapter.withSecret a)).map (fun x => (x.server.test out).toOption) =
        (adapters.map (Adapter.withSecret b)).map (fun x => (x.server.test out).toOption) ↔
      (tested out (adapters.map (Adapter.withSecret a))).map Ending.shownInTest =
        (tested out (adapters.map (Adapter.withSecret b))).map Ending.shownInTest := by
  unfold tested at h ⊢
  simp only [List.map_map, List.map_inj_left] at h ⊢
  apply forall₂_congr
  intro adapter ha
  show (((adapter.withSecret a).server.test out).toOption =
    ((adapter.withSecret b).server.test out).toOption) ↔ _
  rw [ServerRuntime.test_eq, ServerRuntime.test_eq]
  exact Ending.tested_eq_iff _ (h adapter ha)

/-- Runs that differ in the secrets alone and end in the same kinds of outcomes show the same if and
only if the exceptions that they end in have the same texts. -/
theorem secrets_hidden_iff (out : Outside) (adapters : List Adapter) (ts : Str) (req : ScanRequest)
    (a b : Nat → Option Str) (h : SameOutcomes out adapters req a b) :
    observe out (adapters.map (Adapter.withSecret a)) ts req =
        observe out (adapters.map (Adapter.withSecret b)) ts req ↔
      SameTexts out adapters req a b := by
  constructor
  · intro he
    constructor
    · apply (dispatch_eq_iff h.1).1
      exact congrArg Observed.result he
    · apply (tests_eq_iff h.2).1
      exact congrArg Observed.tests he
  · intro ht
    have hd := (dispatch_eq_iff h.1).2 ht.1
    have hts := (tests_eq_iff h.2).2 ht.2
    unfold observe
    rw [hd, hts]

/-- An HTTP client that rejects a header value with a blank at its end, and a server that answers. -/
def strict : Outside where
  exchange request _ :=
    match request.headers.find? fun header => header.2.getLast? = some ' ' with
    | none => .ok ⟨200⟩
    | some header =>
      .error
        { cls := ⟨"LocalProtocolError".toList, .transport⟩
          text := "Illegal header value b'".toList ++ header.2 ++ "'".toList
          repr := "LocalProtocolError(\"Illegal header value b'".toList ++ header.2 ++ "'\")".toList }
  render template _ := .ok template
  loads _ := .ok (.object [])
  encode _ := .ok []
  quote := id
  upper := id

/-- A scan of `/m/x` on the Plex server. -/
def plexScan : ScanRequest where
  serverId := 1
  serverName := "plex".toList
  scanMode := .targeted
  scanPath := some "/m/x".toList
  libraryId := some "1".toList
  scanKey := "/m/x".toList
  eventType := .created
  filePath := "/m/x/e.mkv".toList
  topFolder := some "x".toList

/-- The adapter of the Plex server. -/
def plexAdapters : List Adapter :=
  Engine.plexDb.servers.map fun server => ⟨server.runtime none, 0⟩

theorem secrets_hidden_iff_plex :
    SameOutcomes strict plexAdapters plexScan (fun _ => some "one".toList)
        (fun _ => some "two".toList) ∧
      (observe strict (plexAdapters.map (Adapter.withSecret fun _ => some "one".toList)) [] plexScan =
          observe strict (plexAdapters.map (Adapter.withSecret fun _ => some "two".toList)) []
            plexScan ↔
        SameTexts strict plexAdapters plexScan (fun _ => some "one".toList)
          fun _ => some "two".toList) :=
  have h : SameOutcomes strict plexAdapters plexScan (fun _ => some "one".toList)
      (fun _ => some "two".toList) := ⟨rfl, rfl⟩
  ⟨h, secrets_hidden_iff strict plexAdapters [] plexScan _ _ h⟩

/-- Two secrets that the HTTP client rejects, and quotes. -/
theorem secret_shown :
    SameOutcomes strict plexAdapters plexScan (fun _ => some "one ".toList)
        (fun _ => some "two ".toList) ∧
      observe strict (plexAdapters.map (Adapter.withSecret fun _ => some "one ".toList)) []
          plexScan ≠
        observe strict (plexAdapters.map (Adapter.withSecret fun _ => some "two ".toList)) []
          plexScan ∧
      "one ".toList <:+:
        (observe strict (plexAdapters.map (Adapter.withSecret fun _ => some "one ".toList)) []
          plexScan).record.detail := by
  refine ⟨⟨rfl, rfl⟩, ?_, ?_⟩
  · intro h
    have hd := congrArg (fun o => o.record.detail) h
    exact absurd hd (by decide)
  · exact ⟨"LocalProtocolError: Illegal header value b'".toList, "'".toList, rfl⟩

end MediaScanMonitor
