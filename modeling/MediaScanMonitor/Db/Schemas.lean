import MediaScanMonitor.Db.Models
import MediaScanMonitor.Normalize
import Mathlib.Algebra.Order.Ring.Rat

/-!
# The boundary models

`db/schemas.py`. A field of a `ServerUpdate` is `none` when the caller leaves it out; the validators
reject a null for a column that has none, so only the nullable columns have a second `Option`.
-/

namespace MediaScanMonitor
open Text PosixPath

structure ServerCreate where
  name : Str
  type : ServerType
  baseUrl : Str := []
  verifyTls : Bool := true
  timeoutSeconds : ℚ := 10
  /-- Plaintext. -/
  secret : Option Str := none
  scanMode : ScanMode := .targeted
  debounceMode : DebounceMode := .trailing
  debounceWindowSeconds : Nat := 30
  retryAttempts : Int := 3
  enabled : Bool := true
  webhookMethod : Option Str := none
  webhookHeadersJson : Option Str := none
  webhookBodyTemplate : Option Str := none
  webhookPayloadPreset : WebhookPreset := .custom
  eventTypes : List FsEventType := FsEventType.all
  /-- `_name_not_blank`. -/
  name_not_blank : strip name ≠ []

structure ServerUpdate where
  name : Option Str := none
  type : Option ServerType := none
  baseUrl : Option Str := none
  verifyTls : Option Bool := none
  timeoutSeconds : Option ℚ := none
  /-- Plaintext; a null clears the stored secret. -/
  secret : Option (Option Str) := none
  scanMode : Option ScanMode := none
  debounceMode : Option DebounceMode := none
  debounceWindowSeconds : Option Nat := none
  retryAttempts : Option Int := none
  enabled : Option Bool := none
  webhookMethod : Option (Option Str) := none
  webhookHeadersJson : Option (Option Str) := none
  webhookBodyTemplate : Option (Option Str) := none
  webhookPayloadPreset : Option WebhookPreset := none
  eventTypes : Option (Option (List FsEventType)) := none
  /-- `_name_not_blank`. -/
  name_not_blank : ∀ value ∈ name, strip value ≠ []

structure FolderCreate where
  path : Str
  libraryId : Option Str := none
  libraryName : Option Str := none
  extensions : List Str := []
  enabled : Bool := true
  /-- `_normalize_and_require_absolute`. -/
  absolute : isabs path = true

structure FolderUpdate where
  path : Option Str := none
  libraryId : Option (Option Str) := none
  extensions : Option (Option (List Str)) := none
  enabled : Option Bool := none
  /-- `_normalize_and_require_absolute`. -/
  absolute : ∀ value ∈ path, isabs value = true

/-! The validators on the values of the examples. -/

lemma plex_not_blank : strip "plex".toList ≠ [] := by
  decide

lemma emby_not_blank : strip "emby".toList ≠ [] := by
  decide

lemma tv_absolute : isabs "/tv".toList = true := rfl

end MediaScanMonitor
