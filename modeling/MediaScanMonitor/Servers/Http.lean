import MediaScanMonitor.Lib.Text

/-!
# HTTP requests with retries

`servers/http.py` over an HTTP client that is not modelled: `Exchange` says how each attempt at a
request ends. An exception is its class and the two texts that code can get from it, `str(exc)` and
`repr(exc)`.
-/

namespace MediaScanMonitor
open Text

/-- The exception classes that the adapters tell apart. -/
inductive ExnFamily
  /-- `httpx.TransportError`, an `httpx.HTTPError`. -/
  | transport
  /-- Any other `httpx.HTTPError`. -/
  | http
  /-- `jinja2.TemplateError`. -/
  | template
  /-- `ValueError`, with `json.JSONDecodeError`. -/
  | value
  /-- Any other `Exception`. -/
  | other
deriving DecidableEq

structure ExnClass where
  /-- `type(exc).__name__`. -/
  name : Str
  family : ExnFamily
deriving DecidableEq

structure Exn where
  cls : ExnClass
  /-- `str(exc)`. -/
  text : Str
  /-- `repr(exc)`. -/
  repr : Str
deriving DecidableEq

/-- `isinstance(exc, httpx.HTTPError)`. -/
def Exn.isHttp (exc : Exn) : Bool :=
  exc.cls.family = .transport || exc.cls.family = .http

structure Request where
  method : Str
  url : Str
  headers : List (Str × Str)
  content : Option (List UInt8)

structure Response where
  statusCode : Nat
deriving DecidableEq

/-- `resp.is_success`. -/
def Response.isSuccess (resp : Response) : Bool :=
  200 ≤ resp.statusCode && resp.statusCode < 300

/-- The status asks for another attempt. -/
def Response.isServerError (resp : Response) : Bool :=
  500 ≤ resp.statusCode && resp.statusCode < 600

/-- How the attempts at a request end, by number. -/
abbrev Exchange := Request → Nat → Except Exn Response

/-- The loop of `request_with_retry` from attempt `k` on, with `left` more attempts after it. -/
def retryLoop (attempt : Nat → Except Exn Response) : Nat → Nat → Except Exn Response
  | 0, k => attempt k
  | left + 1, k =>
    match attempt k with
    | .ok resp => if resp.isServerError then retryLoop attempt left (k + 1) else .ok resp
    | .error exc =>
      if exc.cls.family = .transport then retryLoop attempt left (k + 1) else .error exc

/-- `request_with_retry`: the last attempt decides, whatever it is. At least one is made. -/
def requestWithRetry (exchange : Exchange) (request : Request) (attempts : Int) :
    Except Exn Response :=
  retryLoop (exchange request) (attempts.toNat - 1) 0

end MediaScanMonitor
