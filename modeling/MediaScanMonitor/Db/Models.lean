import MediaScanMonitor.Lib.Text

/-!
# The database models

The enumerations and the rows of `db/models.py`, with the reads of `db/repo.py` that assemble a
configuration. An optional column is an `Option`; an exception is `none`.
-/

namespace MediaScanMonitor
open Text

inductive ServerType
  | webhook
  | plex
  | emby
  | jellyfin
  | audiobookshelf
deriving DecidableEq

inductive ScanMode
  | targeted
  | library
deriving DecidableEq

inductive DebounceMode
  | off
  | trailing
deriving DecidableEq

inductive WebhookPreset
  | custom
  | sonarrRadarr
  | mediaPreviewGenerator
deriving DecidableEq

inductive FsEventType
  | created
  | movedTo
  | deleted
  | movedFrom
deriving DecidableEq

/-- The values of the enumeration, in order. -/
def FsEventType.all : List FsEventType := [.created, .movedTo, .deleted, .movedFrom]

def FsEventType.value : FsEventType → Str
  | .created => "created".toList
  | .movedTo => "moved_to".toList
  | .deleted => "deleted".toList
  | .movedFrom => "moved_from".toList

/-- `serialize_event_types`. -/
def serializeEventTypes (types : List FsEventType) : Str :=
  [','].intercalate (types.map FsEventType.value)

/-- `FsEventType(v)`; `none` is the `ValueError`. -/
def FsEventType.ofValue (v : Str) : Option FsEventType :=
  FsEventType.all.find? fun t => t.value = v

/-- `parse_event_types`. -/
def parseEventTypes (raw : Str) : Option (List FsEventType) :=
  ((raw.splitOn ',').filter (· ≠ [])).mapM FsEventType.ofValue

/-- A row of `Server`. -/
structure Server where
  id : Nat
  name : Str
  type : ServerType
  baseUrl : Str
  secretEncrypted : Option Str
  scanMode : ScanMode
  debounceMode : DebounceMode
  debounceWindowSeconds : Nat
  retryAttempts : Int
  enabled : Bool
  webhookMethod : Option Str
  webhookHeadersJson : Option Str
  webhookBodyTemplate : Option Str
  webhookPayloadPreset : WebhookPreset
  eventTypes : Str
deriving DecidableEq

/-- A row of `Folder`, with the extensions of its `FileType` rows. -/
structure Folder where
  serverId : Nat
  path : Str
  libraryId : Option Str
  enabled : Bool
  filetypes : List Str
deriving DecidableEq

/-- The tables. -/
structure Db where
  servers : List Server
  folders : List Folder
  settings : List (Str × Str)
deriving DecidableEq

/-- `Repo.list_servers`. -/
def Db.listServers (db : Db) (enabledOnly : Bool) : List Server :=
  if enabledOnly then db.servers.filter Server.enabled else db.servers

/-- `Repo.list_folders`. -/
def Db.listFolders (db : Db) (serverId : Nat) : List Folder :=
  db.folders.filter fun folder => folder.serverId = serverId

/-- `Repo.get_setting`. -/
def Db.getSetting (db : Db) (key : Str) : Option Str :=
  db.settings.lookup key

/-- `Repo.set_setting`. -/
def Db.setSetting (db : Db) (key value : Str) : Db :=
  { db with settings := (key, value) :: db.settings.filter fun setting => setting.1 ≠ key }

/-- The rows of other keys are found as before. -/
lemma lookup_filter_ne {key key' : Str} (h : key' ≠ key) (settings : List (Str × Str)) :
    (settings.filter fun setting => setting.1 ≠ key).lookup key' = settings.lookup key' := by
  have hb : (key' == key) = false := beq_false_of_ne h
  induction settings with
  | nil => rfl
  | cons setting rest ih =>
    rw [List.filter_cons]
    split
    · rw [List.lookup_cons, List.lookup_cons, ih]
    · next hk =>
      have hs : setting.1 = key := by simpa using hk
      rw [List.lookup_cons, hs, hb, ih]

@[simp] lemma Db.getSetting_setSetting_self (db : Db) (key value : Str) :
    (db.setSetting key value).getSetting key = some value :=
  List.lookup_cons_self

lemma Db.getSetting_setSetting {key key' : Str} (h : key' ≠ key) (db : Db) (value : Str) :
    (db.setSetting key value).getSetting key' = db.getSetting key' := by
  unfold getSetting setSetting
  rw [List.lookup_cons, beq_false_of_ne h]
  exact lookup_filter_ne h db.settings

/-- What is written is read back, whatever the selection of event types. -/
lemma parse_serializeEventTypes (types : List FsEventType) :
    parseEventTypes (serializeEventTypes types) = some types := by
  have hvalue : ∀ t : FsEventType, t.value ≠ [] ∧ ',' ∉ t.value ∧
      FsEventType.ofValue t.value = some t := by
    intro t
    cases t <;> decide
  unfold parseEventTypes serializeEventTypes
  cases types with
  | nil => decide
  | cons t ts =>
    rw [List.splitOn_intercalate]
    · rw [List.filter_eq_self.2]
      · induction t :: ts with
        | nil => rfl
        | cons t ts ih =>
          rw [List.map_cons, List.mapM_cons, (hvalue t).2.2, ih]
          rfl
      · intro v hv
        obtain ⟨t', -, rfl⟩ := List.mem_map.1 hv
        simpa using (hvalue t').1
    · intro v hv
      obtain ⟨t', -, rfl⟩ := List.mem_map.1 hv
      exact (hvalue t').2.1
    · simp

end MediaScanMonitor
