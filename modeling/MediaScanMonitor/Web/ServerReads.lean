import MediaScanMonitor.Db.AtRest
import MediaScanMonitor.Web.ApiSchemas
import MediaScanMonitor.Web.ScanModes

/-!
# Servers as the API shows them

`ServerRead` of `web/api_schemas.py` with the listing of `web/api/servers.py`. Two runs of the
requests that write servers, in any order of their transactions, are answered and shown in the same
way as long as their secrets are given, cleared and left empty in the same places.
-/

namespace MediaScanMonitor
open Text Transition

structure ServerRead where
  id : Nat
  name : Str
  type : ServerType
  baseUrl : Str
  verifyTls : Bool
  timeoutSeconds : ℚ
  hasSecret : Bool
  scanMode : ScanMode
  debounceMode : DebounceMode
  debounceWindowSeconds : Nat
  retryAttempts : Int
  enabled : Bool
  supportedScanModes : List ScanMode
  webhookMethod : Option Str
  webhookHeadersJson : Option Str
  webhookBodyTemplate : Option Str
  webhookPayloadPreset : WebhookPreset
  eventTypes : List FsEventType
  folders : List FolderRead
deriving DecidableEq

/-- `sorted` on a set of scan modes: by their values. -/
def sortedScanModes (modes : List ScanMode) : List ScanMode :=
  [.library, .targeted].filter fun mode => modes.contains mode

/-- `ServerRead.from_model`; `none` when the event types cannot be parsed. -/
def ServerRead.fromModel (server : ServerRow) (folders : List FolderRow) : Option ServerRead := do
  let types ← parseEventTypes server.eventTypes
  pure
    { id := server.id
      name := server.name
      type := server.type
      baseUrl := server.baseUrl
      verifyTls := server.verifyTls
      timeoutSeconds := server.timeoutSeconds
      hasSecret := server.secretEncrypted.isSome
      scanMode := server.scanMode
      debounceMode := server.debounceMode
      debounceWindowSeconds := server.debounceWindowSeconds
      retryAttempts := server.retryAttempts
      enabled := server.enabled
      supportedScanModes := sortedScanModes server.type.supportedScanModes
      webhookMethod := server.webhookMethod
      webhookHeadersJson := server.webhookHeadersJson
      webhookBodyTemplate := server.webhookBodyTemplate
      webhookPayloadPreset := server.webhookPayloadPreset
      eventTypes := FsEventType.all.filter fun t => types.contains t
      folders := folders.map FolderRead.fromModel }

/-- `list_servers` of the API. -/
def Store.readServers (s : Store) : Option (List ServerRead) :=
  s.servers.mapM fun server => ServerRead.fromModel server (s.listFolders server.id)

/-- How a request is answered. -/
inductive WriteAnswer
  | pending
  | done
  | error (error : WriteError)

def ServerWrite.answer : ServerWrite → WriteAnswer
  | .committed => .done
  | .failed error => .error error
  | _ => .pending

/-- The columns say the same about whether there is a secret. -/
def BothSet (a b : Option Str) : Prop :=
  a.isSome = b.isSome

/-- The secrets of two requests are both given or both not, and both empty or both not. -/
def SecretShape (a b : Option Str) : Prop :=
  a.isSome = b.isSome ∧ (a.getD [] = [] ↔ b.getD [] = [])

lemma SecretShape.alike {box box' : SecretBox} {nonce nonce' : Str} {a b : Option Str}
    (h : SecretShape a b) : SecretsAlike BothSet box box' nonce nonce' a b := by
  show (a.map _).isSome = (b.map _).isSome
  rw [Option.isSome_map, Option.isSome_map]
  exact h.1

lemma rel_alike {box box' : SecretBox} {nonce nonce' : Str} {a b : Option (Option Str)}
    (h : Option.Rel SecretShape a b) : Option.Rel (SecretsAlike BothSet box box' nonce nonce') a b := by
  cases h with
  | none => exact .none
  | some h => exact .some h.alike

/-- Two cores that stand in the same place, with secrets of the same shape. -/
inductive WriteAlike : ServerWrite → ServerWrite → Prop
  | creating (data : ServerCreate) (secret : Option Str) (folders : Option (List FolderCreate)) :
      SecretShape data.secret secret →
      WriteAlike (.creating data folders) (.creating { data with secret := secret } folders)
  | reading (serverId : Nat) (data : ServerUpdate) (secret : Option (Option Str))
      (folders : Option (List FolderCreate)) : Option.Rel SecretShape data.secret secret →
      WriteAlike (.reading serverId data folders)
        (.reading serverId { data with secret := secret } folders)
  | updating (serverId : Nat) (data : ServerUpdate) (secret : Option (Option Str))
      (folders : Option (List FolderCreate)) (existing existing' : ServerRow) :
      Option.Rel SecretShape data.secret secret → RowRelated BothSet existing existing' →
      WriteAlike (.updating serverId data folders existing)
        (.updating serverId { data with secret := secret } folders existing')
  | deleting (serverId : Nat) : WriteAlike (.deleting serverId) (.deleting serverId)
  | committed : WriteAlike .committed .committed
  | failed (error : WriteError) : WriteAlike (.failed error) (.failed error)

namespace WriteCores

/-- Two requests with secrets of the same shape, or two transactions in the same place. -/
inductive ActsAlike : Act → Act → Prop
  | create (data : ServerCreate) (secret : Option Str) : SecretShape data.secret secret →
      ActsAlike (.create data) (.create { data with secret := secret })
  | createWithFolders (data : ServerCreate) (secret : Option Str) (folders : List FolderCreate) :
      SecretShape data.secret secret →
      ActsAlike (.createWithFolders data folders)
        (.createWithFolders { data with secret := secret } folders)
  | update (serverId : Nat) (data : ServerUpdate) (secret : Option (Option Str)) :
      Option.Rel SecretShape data.secret secret →
      ActsAlike (.update serverId data) (.update serverId { data with secret := secret })
  | updateWithFolders (serverId : Nat) (data : ServerUpdate) (secret : Option (Option Str))
      (folders : List FolderCreate) : Option.Rel SecretShape data.secret secret →
      ActsAlike (.updateWithFolders serverId data folders)
        (.updateWithFolders serverId { data with secret := secret } folders)
  | delete (serverId : Nat) : ActsAlike (.delete serverId) (.delete serverId)
  | proceed (i : Nat) (nonce nonce' : Str) : ActsAlike (.proceed i nonce) (.proceed i nonce')

/-- The states of two such runs. -/
structure StateAlike (s t : WriteCores) : Prop where
  store : Related BothSet s.store t.store
  writes : List.Forall₂ WriteAlike s.writes t.writes

/-- A new installation. -/
def new : WriteCores :=
  ⟨.empty, []⟩

/-- What is shown of a state: the listing, and the answers of the requests. -/
def shown (s : WriteCores) : Option (List ServerRead) × List WriteAnswer :=
  (s.store.readServers, s.writes.map ServerWrite.answer)

variable {box box' : SecretBox} {repr : Str → Str} {nonce nonce' : Str} {s t : WriteCores}
  {a b : Act} {as bs : List Act} {store store' : Store} {write write' : ServerWrite}

/-! ## Answers -/

/-- The gate of a creation sees the shape of the secret. -/
lemma alike_creating {data : ServerCreate} {secret : Option Str} (h : SecretShape data.secret secret)
    (folders : Option (List FolderCreate)) :
    WriteAlike
      (match requireSecretOr422 repr data.type (data.secret ≠ none && data.secret ≠ some []) with
        | .error error => .failed error
        | .ok () => .creating data folders)
      (match requireSecretOr422 repr data.type (secret ≠ none && secret ≠ some []) with
        | .error error => .failed error
        | .ok () => .creating { data with secret := secret } folders) := by
  have hgate : ∀ x : Option Str,
      (decide (x ≠ none) && decide (x ≠ some [])) = decide (x.getD [] ≠ []) := by
    intro x
    cases x with
    | none => rfl
    | some x => cases x <;> rfl
  have hsame : decide (data.secret.getD [] ≠ []) = decide (secret.getD [] ≠ []) :=
    decide_eq_decide.2 (not_congr h.2)
  rw [hgate, hgate, hsame]
  cases requireSecretOr422 repr data.type (decide (secret.getD [] ≠ [])) with
  | error error => exact .failed error
  | ok _ => exact .creating data secret folders h

/-- Whether there will be a secret. -/
def secretAfter (sent : Option (Option Str)) (stored : Bool) : Bool :=
  match sent with
  | some secret => secret.getD [] ≠ []
  | none => stored

lemma requireUpdateSecret_eq (data : ServerUpdate) (existing : ServerRow) :
    requireUpdateSecret repr data existing =
      requireSecretOr422 repr (data.type.getD existing.type)
        (secretAfter data.secret existing.secretEncrypted.isSome) := rfl

lemma secretAfter_alike {x y : Option (Option Str)} (h : Option.Rel SecretShape x y)
    (stored : Bool) : secretAfter x stored = secretAfter y stored := by
  cases h with
  | none => rfl
  | some h => exact decide_eq_decide.2 (not_congr h.2)

/-- So does the gate of an update; a secret that is left alone is there in both rows or in none. -/
lemma requireUpdateSecret_alike {data : ServerUpdate} {secret : Option (Option Str)}
    {existing existing' : ServerRow} (h : Option.Rel SecretShape data.secret secret)
    (hrow : RowRelated BothSet existing existing') :
    requireUpdateSecret repr data existing =
      requireUpdateSecret repr { data with secret := secret } existing' := by
  have htype := congrArg (fun row : ServerRow => row.type) hrow.masked
  have htype : existing.type = existing'.type := htype
  have hset : existing.secretEncrypted.isSome = existing'.secretEncrypted.isSome := hrow.secret
  rw [requireUpdateSecret_eq, requireUpdateSecret_eq, htype, hset, secretAfter_alike h]

/-- One transaction on each side; a case for each place. -/
lemma step_alike (h : Related BothSet store store') (hw : WriteAlike write write') :
    Option.Rel (fun x y => WriteAlike x.1 y.1 ∧ Related BothSet x.2 y.2)
      (write.step box repr nonce store) (write'.step box' repr nonce' store') := by
  cases hw with
  | creating data secret folders hsecret =>
    cases folders with
    | none =>
      have hc : CommitRelated BothSet (store.createServer box nonce data)
          (store'.createServer box' nonce' { data with secret := secret }) :=
        h.createServer hsecret.alike
      simp only [ServerWrite.step]
      generalize store.createServer box nonce data = x at hc
      generalize store'.createServer box' nonce' { data with secret := secret } = y at hc
      cases hc with
      | ok a b s t _ hrel => exact .some ⟨.committed, hrel⟩
      | error => exact .some ⟨.failed _, h⟩
    | some folders =>
      have hc : CommitRelated BothSet (store.createServerWithFolders box nonce data folders)
          (store'.createServerWithFolders box' nonce' { data with secret := secret } folders) :=
        h.createServerWithFolders hsecret.alike folders
      simp only [ServerWrite.step]
      generalize store.createServerWithFolders box nonce data folders = x at hc
      generalize store'.createServerWithFolders box' nonce' { data with secret := secret } folders =
        y at hc
      cases hc with
      | ok a b s t _ hrel => exact .some ⟨.committed, hrel⟩
      | error => exact .some ⟨.failed _, h⟩
  | reading serverId data secret folders hsecret =>
    have hfound := h.getServer serverId
    simp only [ServerWrite.step]
    generalize store.getServer serverId = x at hfound
    generalize store'.getServer serverId = y at hfound
    cases hfound with
    | none => exact .some ⟨.failed _, h⟩
    | @some existing existing' hrow =>
      simp only
      rw [requireUpdateSecret_alike hsecret hrow]
      cases requireUpdateSecret repr { data with secret := secret } existing' with
      | error error => exact .some ⟨.failed error, h⟩
      | ok _ => exact .some ⟨.updating serverId data secret folders _ _ hsecret hrow, h⟩
  | updating serverId data secret folders existing existing' hsecret hrow =>
    cases folders with
    | none =>
      have hc : CommitRelated BothSet (store.updateServer box nonce serverId data)
          (store'.updateServer box' nonce' serverId { data with secret := secret }) :=
        h.updateServer serverId (rel_alike hsecret)
      simp only [ServerWrite.step]
      generalize store.updateServer box nonce serverId data = x at hc
      generalize store'.updateServer box' nonce' serverId { data with secret := secret } = y at hc
      cases hc with
      | ok a b s t _ hrel => exact .some ⟨.committed, hrel⟩
      | error => exact .some ⟨.failed _, h⟩
    | some folders =>
      have hc : CommitRelated BothSet (store.updateServerWithFolders box nonce serverId data folders)
          (store'.updateServerWithFolders box' nonce' serverId { data with secret := secret }
            folders) :=
        h.updateServerWithFolders serverId (rel_alike hsecret) folders
      simp only [ServerWrite.step]
      generalize store.updateServerWithFolders box nonce serverId data folders = x at hc
      generalize store'.updateServerWithFolders box' nonce' serverId
        { data with secret := secret } folders = y at hc
      cases hc with
      | ok a b s t _ hrel => exact .some ⟨.committed, hrel⟩
      | error error =>
        cases error with
        | keyError id => exact .some ⟨.failed _, h⟩
        | integrityError =>
          rw [hrow.name_eq]
          exact .some ⟨.failed _, h⟩
  | deleting serverId => exact .some ⟨.committed, h.deleteServer serverId⟩
  | committed => exact .none
  | failed => exact .none

lemma StateAlike.arrive (h : StateAlike s t) (hw : WriteAlike write write') :
    StateAlike (s.arrive write) (t.arrive write') :=
  ⟨h.store, List.rel_append h.writes (.cons hw .nil)⟩

lemma forall₂_set {α β : Type} {R : α → β → Prop} {l : List α} {l' : List β} {x : α} {y : β}
    (h : List.Forall₂ R l l') (hxy : R x y) (i : Nat) : List.Forall₂ R (l.set i x) (l'.set i y) := by
  induction h generalizing i with
  | nil => exact .nil
  | cons hhead htail ih =>
    cases i with
    | zero => exact .cons hxy htail
    | succ i => exact .cons hhead (ih i)

/-- A request arrives on each side, or a transaction is made. -/
lemma StateAlike.step (h : StateAlike s t) (ha : ActsAlike a b) :
    Option.Rel StateAlike (s.step box repr a) (t.step box' repr b) := by
  cases ha with
  | create data secret hsecret => exact .some (h.arrive (alike_creating hsecret none))
  | createWithFolders data secret folders hsecret =>
    exact .some (h.arrive (alike_creating hsecret (some folders)))
  | update serverId data secret hsecret =>
    exact .some (h.arrive (.reading serverId data secret none hsecret))
  | updateWithFolders serverId data secret folders hsecret =>
    exact .some (h.arrive (.reading serverId data secret (some folders) hsecret))
  | delete serverId => exact .some (h.arrive (.deleting serverId))
  | proceed i nonce nonce' =>
    have hfound := List.forall₂_iff_get.1 h.writes
    simp only [WriteCores.step]
    by_cases hi : i < s.writes.length
    · have hi' : i < t.writes.length := hfound.1 ▸ hi
      have hstep : Option.Rel (fun x y => WriteAlike x.1 y.1 ∧ Related BothSet x.2 y.2)
          (s.writes[i].step box repr nonce s.store) (t.writes[i].step box' repr nonce' t.store) :=
        step_alike h.store (hfound.2 i hi hi')
      rw [List.getElem?_eq_getElem hi, List.getElem?_eq_getElem hi']
      simp only [Option.bind_eq_bind, Option.bind_some]
      generalize s.writes[i].step box repr nonce s.store = x at hstep
      generalize t.writes[i].step box' repr nonce' t.store = y at hstep
      cases hstep with
      | none => exact .none
      | some hstep => exact .some ⟨hstep.2, forall₂_set h.writes hstep.1 i⟩
    · rw [List.getElem?_eq_none (Nat.not_lt.1 hi),
        List.getElem?_eq_none (hfound.1 ▸ Nat.not_lt.1 hi)]
      exact .none

lemma StateAlike.run (h : StateAlike s t) (ha : List.Forall₂ ActsAlike as bs) :
    Option.Rel StateAlike (run (WriteCores.step box repr) s as)
      (run (WriteCores.step box' repr) t bs) := by
  induction ha generalizing s t with
  | nil => exact .some h
  | @cons a b as bs ha _ ih =>
    have hstep : Option.Rel StateAlike (s.step box repr a) (t.step box' repr b) := h.step ha
    rw [Transition.run, Transition.run]
    generalize s.step box repr a = x at hstep
    generalize t.step box' repr b = y at hstep
    cases hstep with
    | none => exact .none
    | some hstep => exact ih hstep

/-! ## Reads -/

end WriteCores
end MediaScanMonitor
