import MediaScanMonitor.Config.Runtime
import MediaScanMonitor.Pipeline.Router
import MediaScanMonitor.Servers.Http

/-!
# Adapters: the shared part

The results of `servers/base.py`, and what the adapters use that is not theirs: the HTTP exchange,
Jinja2, and functions of the standard library.
-/

namespace MediaScanMonitor
open Text

/-- `TriggerResult`. -/
structure TriggerResult where
  ok : Bool
  statusCode : Option Nat
  detail : Str
deriving DecidableEq

/-- `TestResult`. -/
structure TestResult where
  ok : Bool
  detail : Str
deriving DecidableEq

/-- A value in the context of a template. -/
inductive ContextValue
  | str (s : Str)
  | none
  | bool (b : Bool)

/-- What `json.loads` returns: an object, by the `str` of its keys and values, or something else. -/
inductive Loaded
  | object (items : List (Str × Str))
  | other

/-- What the adapters use. -/
structure Outside where
  exchange : Exchange
  /-- `_ENV.from_string(template).render(**context)`. -/
  render : Str → List (Str × ContextValue) → Except Exn Str
  loads : Str → Except Exn Loaded
  /-- `s.encode("utf-8")`. -/
  encode : Str → Except Exn (List UInt8)
  /-- `quote(s, safe="/")`. -/
  quote : Str → Str
  upper : Str → Str

/-- The detail for an exception that an adapter catches. -/
def Exn.detail (exc : Exn) : Str :=
  exc.cls.name ++ ": ".toList ++ exc.text

/-- The detail for a response that is no success. -/
def Response.detail (resp : Response) : Str :=
  "HTTP ".toList ++ (Nat.repr resp.statusCode).toList

end MediaScanMonitor
