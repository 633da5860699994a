import MediaScanMonitor.Lib.Retry
import MediaScanMonitor.Servers.Rest

/-!
# Requests with retries, one by one

`request_with_retry` of `servers/http.py` as a loop of tenacity's, with the requests that the client
issues. A 5xx response goes through the loop as an exception and is a response again behind it. What
the adapters are modelled with, `requestWithRetry`, is this loop without the client.
-/

namespace MediaScanMonitor
open Text Retry

/-- What an attempt raises. -/
inductive Raised
  /-- `_RetryableStatus`. -/
  | retryableStatus (response : Response)
  | client (exc : Exn)

/-- `_is_retryable`. -/
def isRetryable : Raised → Bool
  | .retryableStatus _ => true
  | .client exc => exc.cls.family = .transport

/-- `httpx.AsyncClient`: how its requests end, by number from `1` on, and those it has issued. -/
structure AsyncClient where
  outcomes : Nat → Except Exn Response
  issued : List Request

/-- How `request_with_retry` ends. -/
inductive RequestEnd
  | returned (response : Response)
  | raised (exc : Exn)
  | assertionError
deriving DecidableEq

/-- What the loop leaves behind: `except _RetryableStatus`, and the last line. -/
def RequestEnd.behind : Attempt Raised Response → RequestEnd
  | .returned response => .returned response
  | .raised (.retryableStatus response) => .returned response
  | .raised (.client exc) => .raised exc
  | .finished => .assertionError

/-- The end that an outcome calls for. -/
def RequestEnd.of : Except Exn Response → RequestEnd
  | .ok response => .returned response
  | .error exc => .raised exc

/-- `AsyncRetrying` with the arguments it is given; the waits between the attempts are left out. -/
def retrying (attempts : Int) : Retrying Raised where
  stop number := attempts ≤ number
  retry := isRetryable

/-- Neither an `httpx.TransportError` nor a 5xx response. -/
def isSettled : Except Exn Response → Bool
  | .ok response => !response.isServerError
  | .error exc => exc.cls.family ≠ .transport

/-- The number of the outcome that decides, of at most `max 1 attempts`. -/
def deciding (outcomes : Nat → Except Exn Response) (attempts : Int) : Nat :=
  firstSettled (fun i => isSettled (outcomes i)) (max 1 attempts).toNat

namespace AsyncClient

/-- `client.request`. -/
def request (client : AsyncClient) (req : Request) : Except Exn Response × AsyncClient :=
  (client.outcomes (client.issued.length + 1), { client with issued := client.issued ++ [req] })

/-- The body of the loop. -/
def attempt (req : Request) (client : AsyncClient) : Attempt Raised Response × AsyncClient :=
  match client.request req with
  | (.ok response, client) =>
    if response.isServerError then (.raised (.retryableStatus response), client)
    else (.returned response, client)
  | (.error exc, client) => (.raised (.client exc), client)

/-- `request_with_retry`. -/
def requestWithRetry (fuel : Nat) (client : AsyncClient) (req : Request) (attempts : Int) :
    Option (RequestEnd × AsyncClient) :=
  ((retrying attempts).loop (attempt req) fuel 1 client).map fun last =>
    (.behind last.1, last.2)

/-- How the next requests end, by number from `1` on. -/
def next (client : AsyncClient) (i : Nat) : Except Exn Response :=
  client.outcomes (client.issued.length + i)

variable {client : AsyncClient} {req : Request} {attempts : Int}

/-- An attempt issues a request, whatever comes of it. -/
lemma attempt_client (req : Request) (client : AsyncClient) :
    (attempt req client).2 = { client with issued := client.issued ++ [req] } := by
  unfold attempt request
  cases client.outcomes (client.issued.length + 1) with
  | ok response =>
    simp only
    split
    · rfl
    · rfl
  | error exc => rfl

/-- The client after a number of attempts. -/
lemma after_attempt (req : Request) (client : AsyncClient) (m : Nat) :
    Retrying.after (attempt req) m client =
      { client with issued := client.issued ++ List.replicate m req } := by
  unfold Retrying.after
  induction m with
  | zero =>
    rw [List.replicate_zero, List.append_nil]
    rfl
  | succ m ih =>
    rw [Function.iterate_succ_apply', ih, attempt_client, List.replicate_succ',
      ← List.append_assoc]

/-- What the attempts after some others make of their outcomes. -/
lemma attempt_after (req : Request) (client : AsyncClient) (m : Nat) :
    (attempt req (Retrying.after (attempt req) m client)).1 =
      match client.next (m + 1) with
      | .ok response =>
        if response.isServerError then .raised (.retryableStatus response) else .returned response
      | .error exc => .raised (.client exc) := by
  rw [after_attempt]
  unfold attempt request next
  rw [List.length_append, List.length_replicate, Nat.add_assoc]
  cases client.outcomes (client.issued.length + (m + 1)) with
  | ok response =>
    simp only
    split
    · rfl
    · rfl
  | error exc => rfl

/-- An attempt is followed by another one while its outcome is not settled and its number not the
last. -/
lemma again_attempt (req : Request) (client : AsyncClient) (attempts : Int) (m : Nat) :
    (retrying attempts).again (1 + m)
        (attempt req (Retrying.after (attempt req) m client)).1 =
      (!isSettled (client.next (m + 1)) && !decide (attempts ≤ (1 + m : Nat))) := by
  rw [attempt_after]
  cases client.next (m + 1) with
  | ok response =>
    simp only [isSettled]
    cases response.isServerError with
    | false => rfl
    | true => rfl
  | error exc =>
    show (isRetryable (.client exc) && _) = (!decide (exc.cls.family ≠ .transport) && _)
    rw [decide_not, Bool.not_not]
    rfl

/-- What the loop ends with becomes the outcome again. -/
lemma behind_attempt (req : Request) (client : AsyncClient) (m : Nat) :
    RequestEnd.behind (attempt req (Retrying.after (attempt req) m client)).1 =
      .of (client.next (m + 1)) := by
  rw [attempt_after]
  cases client.next (m + 1) with
  | ok response =>
    simp only
    split
    · rfl
    · rfl
  | error exc => rfl

/-- The loop ends with the attempt that decides. -/
lemma loop_attempt (client : AsyncClient) (req : Request) (attempts : Int) (extra : Nat) :
    ∃ m, deciding client.next attempts = m + 1 ∧
      (retrying attempts).loop (attempt req) ((max 1 attempts).toNat + extra) 1 client =
        some (attempt req (Retrying.after (attempt req) m client)) := by
  have hn : 1 ≤ (max 1 attempts).toNat := by omega
  obtain ⟨hlo, hhi, hbefore, hlast⟩ :=
    firstSettled_spec (fun i => isSettled (client.next i)) hn
  obtain ⟨m, hm⟩ : ∃ m, firstSettled (fun i => isSettled (client.next i)) (max 1 attempts).toNat =
      m + 1 := Nat.exists_eq_add_of_le' hlo
  rw [hm] at hhi hbefore hlast
  refine ⟨m, hm, Retrying.loop_eq _ _ (fun i hi => ?_) ?_ (by omega)⟩
  · have hsettled : isSettled (client.next (i + 1)) = false :=
      hbefore (i + 1) (Nat.le_add_left 1 i) (Nat.succ_lt_succ hi)
    have hmore : ¬ attempts ≤ (1 + i : Nat) := by omega
    rw [again_attempt, hsettled, decide_eq_false hmore]
    rfl
  · rw [again_attempt]
    rcases hlast with hsettled | hend
    · rw [hsettled]
      rfl
    · have hstop : attempts ≤ (1 + m : Nat) := by omega
      rw [decide_eq_true hstop, Bool.not_true, Bool.and_false]

/-- Exactly the requests up to the deciding one are issued, and its outcome is the result. -/
theorem requestWithRetry_eq (client : AsyncClient) (req : Request) (attempts : Int) (extra : Nat) :
    client.requestWithRetry ((max 1 attempts).toNat + extra) req attempts =
      some (.of (client.next (deciding client.next attempts)),
        { client with
          issued := client.issued ++ List.replicate (deciding client.next attempts) req }) := by
  obtain ⟨m, hm, hloop⟩ := loop_attempt client req attempts extra
  have hissued := after_attempt req client (m + 1)
  unfold Retrying.after at hissued
  rw [Function.iterate_succ_apply'] at hissued
  rw [requestWithRetry, hloop, hm, ← hissued, ← behind_attempt req client m]
  rfl

/-- The body of the loop returns or raises, so that nothing comes after the loop. -/
lemma requestWithRetry_ne (client client' : AsyncClient) (req : Request) (attempts : Int)
    (fuel : Nat) : client.requestWithRetry fuel req attempts ≠ some (.assertionError, client') := by
  intro h
  obtain ⟨last, hloop, hlast⟩ := Option.map_eq_some_iff.1 h
  obtain ⟨s, rfl⟩ := Retrying.exists_of_loop hloop
  have hend : RequestEnd.behind (attempt req s).1 = .of (s.next 1) := behind_attempt req s 0
  have hassertion : RequestEnd.behind (attempt req s).1 = .assertionError := congrArg Prod.fst hlast
  rw [hassertion] at hend
  cases h1 : s.next 1 with
  | ok response =>
    rw [h1] at hend
    cases hend
  | error exc =>
    rw [h1] at hend
    cases hend

end AsyncClient

/-- An outcome that is not settled is followed by another attempt, if there is one left. -/
lemma retryLoop_succ (attempt : Nat → Except Exn Response) (left k : Nat) :
    retryLoop attempt (left + 1) k =
      if isSettled (attempt k) then attempt k else retryLoop attempt left (k + 1) := by
  rw [retryLoop]
  cases attempt k with
  | ok response =>
    have hsettled : isSettled (.ok response) = !response.isServerError := rfl
    rw [hsettled]
    show (if response.isServerError then retryLoop attempt left (k + 1) else .ok response) = _
    cases response.isServerError with
    | false => rfl
    | true => rfl
  | error exc =>
    by_cases hfamily : exc.cls.family = .transport
    · have hsettled : isSettled (.error exc) = false := decide_eq_false (not_not.2 hfamily)
      rw [hsettled]
      exact if_pos hfamily
    · have hsettled : isSettled (.error exc) = true := decide_eq_true hfamily
      rw [hsettled]
      exact if_neg hfamily

/-- The loop without the client, too, ends with the first outcome that is settled. -/
lemma retryLoop_eq {attempt : Nat → Except Exn Response} {m left k : Nat} (hle : m ≤ left)
    (hbefore : ∀ i < m, isSettled (attempt (k + i)) = false)
    (hlast : isSettled (attempt (k + m)) = true ∨ m = left) :
    retryLoop attempt left k = attempt (k + m) := by
  induction m generalizing left k with
  | zero =>
    cases left with
    | zero => rfl
    | succ left =>
      rcases hlast with hsettled | hend
      · rw [retryLoop_succ]
        exact if_pos hsettled
      · cases hend
  | succ m ih =>
    cases left with
    | zero => cases hle
    | succ left =>
      have hfirst : isSettled (attempt k) = false := hbefore 0 (Nat.succ_pos m)
      have hshift : ∀ i, k + (i + 1) = k + 1 + i := fun i => by omega
      rw [retryLoop_succ, hfirst, if_neg Bool.false_ne_true, hshift m]
      apply ih (Nat.le_of_succ_le_succ hle)
      · intro i hi
        rw [← hshift]
        exact hbefore (i + 1) (Nat.succ_lt_succ hi)
      · rw [← hshift]
        exact hlast.imp_right Nat.succ.inj

/-- A client that has issued no request, and answers as the exchange does. -/
def AsyncClient.of (exchange : Exchange) (req : Request) : AsyncClient :=
  ⟨fun i => exchange req (i - 1), []⟩

/-- What the adapters are modelled with is the outcome that decides. -/
lemma requestWithRetry_deciding (exchange : Exchange) (req : Request) (attempts : Int) :
    requestWithRetry exchange req attempts =
      (AsyncClient.of exchange req).next
        (deciding (AsyncClient.of exchange req).next attempts) := by
  have hn : 1 ≤ (max 1 attempts).toNat := by omega
  obtain ⟨hlo, hhi, hbefore, hlast⟩ :=
    firstSettled_spec (fun i => isSettled ((AsyncClient.of exchange req).next i)) hn
  obtain ⟨m, hm⟩ := Nat.exists_eq_add_of_le' hlo
  rw [hm] at hhi hbefore hlast
  have hdeciding : deciding (AsyncClient.of exchange req).next attempts = m + 1 := hm
  rw [hdeciding, requestWithRetry]
  apply retryLoop_eq
  · omega
  · intro i hi
    exact hbefore (i + 1) (Nat.le_add_left 1 i) (Nat.succ_lt_succ hi)
  · rcases hlast with hsettled | hend
    · exact .inl hsettled
    · exact .inr (by omega)

namespace RestAdapter

/-- The outcome that decides a trigger. -/
def decided (a : RestAdapter) (out : Outside) (server : ServerRuntime) (req : ScanRequest) :
    Except Exn Response :=
  let client := AsyncClient.of out.exchange (a.triggerRequest out server req)
  client.next (deciding client.next server.retryAttempts)

variable (a : RestAdapter) (out : Outside) (server : ServerRuntime) (req : ScanRequest)

lemma trigger_decided :
    a.trigger out server req =
      match a.decided out server req with
      | .error exc => if exc.isHttp then .ok ⟨false, none, exc.detail⟩ else .error exc
      | .ok resp =>
        if resp.isSuccess then .ok ⟨true, some resp.statusCode, a.triggered⟩
        else .ok ⟨false, some resp.statusCode, resp.detail⟩ := by
  rw [trigger, requestWithRetry_deciding]
  rfl

/-- A trigger succeeds exactly by a response of success. -/
lemma trigger_ok_iff :
    (∃ result, a.trigger out server req = .ok result ∧ result.ok = true) ↔
      ∃ resp, a.decided out server req = .ok resp ∧ resp.isSuccess = true := by
  rw [trigger_decided]
  cases a.decided out server req with
  | error exc =>
    simp only
    split
    · simp
    · simp
  | ok resp =>
    cases h : resp.isSuccess with
    | false => simp [h]
    | true => simp [h]

/-- A response is reported with its status code. -/
lemma trigger_statusCode {resp : Response} (h : a.decided out server req = .ok resp) :
    ∃ result, a.trigger out server req = .ok result ∧
      result.statusCode = some resp.statusCode := by
  rw [trigger_decided, h]
  simp only
  split
  · exact ⟨_, rfl, rfl⟩
  · exact ⟨_, rfl, rfl⟩

/-- What a trigger raises is no `httpx.HTTPError`. -/
lemma isHttp_of_trigger {exc : Exn} (h : a.trigger out server req = .error exc) :
    exc.isHttp = false := by
  rw [trigger_decided] at h
  cases hd : a.decided out server req with
  | error exc' =>
    rw [hd] at h
    simp only at h
    split at h
    · cases h
    · next hhttp =>
      cases h
      exact Bool.eq_false_iff.2 hhttp
  | ok resp =>
    rw [hd] at h
    simp only at h
    split at h
    · cases h
    · cases h

end RestAdapter

/-- Whatever the outcomes and the number of attempts, the requests up to the deciding one are issued,
and the call ends as it does; so do the triggers of the media servers. -/
theorem request_decided :
    (∀ (client : AsyncClient) (req : Request) (attempts : Int) (extra : Nat),
      client.requestWithRetry ((max 1 attempts).toNat + extra) req attempts =
        some (.of (client.next (deciding client.next attempts)),
          { client with
            issued := client.issued ++ List.replicate (deciding client.next attempts) req })) ∧
    (∀ (client client' : AsyncClient) (req : Request) (attempts : Int) (fuel : Nat),
      client.requestWithRetry fuel req attempts ≠ some (.assertionError, client')) ∧
    ∀ (a : RestAdapter) (out : Outside) (server : ServerRuntime) (req : ScanRequest),
      ((∃ result, a.trigger out server req = .ok result ∧ result.ok = true) ↔
        ∃ resp, a.decided out server req = .ok resp ∧
          200 ≤ resp.statusCode ∧ resp.statusCode < 300) ∧
      (∀ resp, a.decided out server req = .ok resp →
        ∃ result, a.trigger out server req = .ok result ∧
          result.statusCode = some resp.statusCode) ∧
      ∀ exc, a.trigger out server req = .error exc → exc.isHttp = false := by
  refine ⟨AsyncClient.requestWithRetry_eq, AsyncClient.requestWithRetry_ne,
    fun a out server req => ⟨?_, ?_, ?_⟩⟩
  · rw [a.trigger_ok_iff]
    simp only [Response.isSuccess, Bool.and_eq_true, decide_eq_true_eq]
  · intro resp
    exact a.trigger_statusCode out server req
  · intro exc
    exact a.isHttp_of_trigger out server req

end MediaScanMonitor
