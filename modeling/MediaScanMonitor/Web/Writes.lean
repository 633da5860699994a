import MediaScanMonitor.Config.Content
import MediaScanMonitor.Db.Repo
import MediaScanMonitor.Lib.Transition

/-!
# The write cores

The server cores of `web/writes.py`. The check of an update reads the row in one transaction and the
write commits in another; any number of requests are between the two. A row whose type requires a
secret keeps one as long as the write finds what the check has found.
-/

namespace MediaScanMonitor
open Text Transition

/-- `server_type.value`. -/
def ServerType.value : ServerType → Str
  | .webhook => "webhook".toList
  | .plex => "plex".toList
  | .emby => "emby".toList
  | .jellyfin => "jellyfin".toList
  | .audiobookshelf => "audiobookshelf".toList

/-- `SERVER_TYPE_SPECS[server_type].requires_secret`. -/
def ServerType.requiresSecret : ServerType → Bool
  | .plex => true
  | .emby => true
  | .jellyfin => true
  | .audiobookshelf => true
  | .webhook => false

/-- What a core raises. -/
inductive WriteError
  /-- An `HTTPException`. -/
  | http (status : Nat) (detail : Str)
  | repo (error : RepoError)
deriving DecidableEq

/-- `_require_secret_or_422`; `repr` is that of a text. -/
def requireSecretOr422 (repr : Str → Str) (serverType : ServerType) (hasSecret : Bool) :
    Except WriteError Unit :=
  if serverType.requiresSecret && !hasSecret then
    .error (.http 422
      ("server type ".toList ++ repr serverType.value ++ " requires a secret/token".toList))
  else .ok ()

/-- `_name_conflict`. -/
def nameConflict (repr : Str → Str) (name : Str) : WriteError :=
  .http 409 ("A server named ".toList ++ repr name ++ " already exists.".toList)

/-- `_require_update_secret`. -/
def requireUpdateSecret (repr : Str → Str) (data : ServerUpdate) (existing : ServerRow) :
    Except WriteError Unit :=
  let resultingType := data.type.getD existing.type
  let resultingHasSecret := match data.secret with
    | some secret => secret.getD [] ≠ []
    | none => existing.secretEncrypted.isSome
  requireSecretOr422 repr resultingType resultingHasSecret

/-- Where a core is. Without `folders` it is one that leaves the folders alone. -/
inductive ServerWrite
  /-- The check is passed, the row is about to be created. -/
  | creating (data : ServerCreate) (folders : Option (List FolderCreate))
  /-- The row is about to be read. -/
  | reading (serverId : Nat) (data : ServerUpdate) (folders : Option (List FolderCreate))
  /-- The check is passed, the row is about to be written. -/
  | updating (serverId : Nat) (data : ServerUpdate) (folders : Option (List FolderCreate))
      (existing : ServerRow)
  | deleting (serverId : Nat)
  /-- The write is committed; the rebuild comes next. -/
  | committed
  | failed (error : WriteError)

namespace ServerWrite

/-- `apply_server_create` up to its first `await`. -/
def applyServerCreate (repr : Str → Str) (data : ServerCreate) : ServerWrite :=
  match requireSecretOr422 repr data.type (data.secret ≠ none && data.secret ≠ some []) with
  | .error error => .failed error
  | .ok () => .creating data none

/-- `apply_server_create_with_folders` up to its first `await`. -/
def applyServerCreateWithFolders (repr : Str → Str) (serverData : ServerCreate)
    (folders : List FolderCreate) : ServerWrite :=
  match requireSecretOr422 repr serverData.type
      (serverData.secret ≠ none && serverData.secret ≠ some []) with
  | .error error => .failed error
  | .ok () => .creating serverData (some folders)

/-- `apply_server_update` up to its first `await`. -/
def applyServerUpdate (serverId : Nat) (data : ServerUpdate) : ServerWrite :=
  .reading serverId data none

/-- `apply_server_update_with_folders` up to its first `await`. -/
def applyServerUpdateWithFolders (serverId : Nat) (data : ServerUpdate)
    (folders : List FolderCreate) : ServerWrite :=
  .reading serverId data (some folders)

/-- `apply_server_delete` up to its first `await`. -/
def applyServerDelete (serverId : Nat) : ServerWrite :=
  .deleting serverId

/-- The next transaction of a core, with what the core does up to the one after. -/
def step (box : SecretBox) (repr : Str → Str) (nonce : Str) (store : Store) :
    ServerWrite → Option (ServerWrite × Store)
  | .creating data none =>
    match store.createServer box nonce data with
    | .error _ => some (.failed (nameConflict repr data.name), store)
    | .ok (_, store) => some (.committed, store)
  | .creating data (some folders) =>
    match store.createServerWithFolders box nonce data folders with
    | .error _ => some (.failed (nameConflict repr data.name), store)
    | .ok (_, store) => some (.committed, store)
  | .reading serverId data folders =>
    match store.getServer serverId with
    | none => some (.failed (.repo (.keyError serverId)), store)
    | some existing =>
      match requireUpdateSecret repr data existing with
      | .error error => some (.failed error, store)
      | .ok () => some (.updating serverId data folders existing, store)
  | .updating serverId data none _ =>
    match store.updateServer box nonce serverId data with
    -- a taken name is an `IntegrityError` that nobody catches here
    | .error error => some (.failed (.repo error), store)
    | .ok (_, store) => some (.committed, store)
  | .updating serverId data (some folders) existing =>
    match store.updateServerWithFolders box nonce serverId data folders with
    | .error (.keyError serverId) => some (.failed (.repo (.keyError serverId)), store)
    | .error .integrityError =>
      some (.failed (nameConflict repr (data.name.getD existing.name)), store)
    | .ok (_, store) => some (.committed, store)
  | .deleting serverId => some (.committed, store.deleteServer serverId)
  | .committed => none
  | .failed _ => none

end ServerWrite

/-- The database and the requests that write servers. -/
structure WriteCores where
  store : Store
  writes : List ServerWrite

namespace WriteCores

inductive Act
  | create (data : ServerCreate)
  | createWithFolders (data : ServerCreate) (folders : List FolderCreate)
  | update (serverId : Nat) (data : ServerUpdate)
  | updateWithFolders (serverId : Nat) (data : ServerUpdate) (folders : List FolderCreate)
  | delete (serverId : Nat)
  /-- A request goes on; what is random about a token is chosen here. -/
  | proceed (i : Nat) (nonce : Str)

/-- A request arrives. -/
def arrive (s : WriteCores) (write : ServerWrite) : WriteCores :=
  { s with writes := s.writes ++ [write] }

def step (box : SecretBox) (repr : Str → Str) (s : WriteCores) : Act → Option WriteCores
  | .create data => some (s.arrive (.applyServerCreate repr data))
  | .createWithFolders data folders =>
    some (s.arrive (.applyServerCreateWithFolders repr data folders))
  | .update serverId data => some (s.arrive (.applyServerUpdate serverId data))
  | .updateWithFolders serverId data folders =>
    some (s.arrive (.applyServerUpdateWithFolders serverId data folders))
  | .delete serverId => some (s.arrive (.applyServerDelete serverId))
  | .proceed i nonce => do
    let (write, store) ← (← s.writes[i]?).step box repr nonce s.store
    pure { store := store, writes := s.writes.set i write }

/-- The row resolves to a secret that is not empty. -/
def Resolves (box : SecretBox) (row : ServerRow) : Prop :=
  ∃ secret, resolveSecret box.decrypt row.toServer = some (some secret) ∧ secret ≠ []

/-- Every server whose type requires a secret has one. -/
def Secured (box : SecretBox) (store : Store) : Prop :=
  ∀ row ∈ store.servers, row.type.requiresSecret = true → Resolves box row

instance (box : SecretBox) (row : ServerRow) : Decidable (Resolves box row) :=
  match h : resolveSecret box.decrypt row.toServer with
  | some (some []) => isFalse fun ⟨_, hr, hne⟩ => hne (by rw [h] at hr; cases hr; rfl)
  | some (some (c :: secret)) => isTrue ⟨c :: secret, h, List.cons_ne_nil c secret⟩
  | some none => isFalse fun ⟨_, hr, _⟩ => by rw [h] at hr; cases hr
  | none => isFalse fun ⟨_, hr, _⟩ => by rw [h] at hr; cases hr

/-- A write that goes through finds what its check has found: the secret that it leaves alone is one
that the new type may have, and the type that it leaves alone is one that may lose its secret. -/
def Keeps (box : SecretBox) (store : Store) (serverId : Nat) (data : ServerUpdate) : Prop :=
  ∀ row ∈ store.getServer serverId,
    store.nameTaken serverId (data.name.getD row.name) = false →
      (∀ type ∈ data.type, type.requiresSecret = true → data.secret = none → Resolves box row) ∧
        ∀ secret ∈ data.secret, secret.getD [] = [] → data.type = none →
          row.type.requiresSecret = false

instance (box : SecretBox) (store : Store) (serverId : Nat) (data : ServerUpdate) :
    Decidable (Keeps box store serverId data) :=
  inferInstanceAs (Decidable (∀ row ∈ store.getServer serverId,
    store.nameTaken serverId (data.name.getD row.name) = false →
      (∀ type ∈ data.type, type.requiresSecret = true → data.secret = none → Resolves box row) ∧
        ∀ secret ∈ data.secret, secret.getD [] = [] → data.type = none →
          row.type.requiresSecret = false))

/-- The condition on the write step of an update. -/
def KeptBy (box : SecretBox) (store : Store) : Option ServerWrite → Prop
  | some (.updating serverId data _ _) => Keeps box store serverId data
  | _ => True

instance (box : SecretBox) (store : Store) :
    (write : Option ServerWrite) → Decidable (KeptBy box store write)
  | some (.updating serverId data _ _) =>
    inferInstanceAs (Decidable (Keeps box store serverId data))
  | some (.creating _ _) => isTrue trivial
  | some (.reading _ _ _) => isTrue trivial
  | some (.deleting _) => isTrue trivial
  | some .committed => isTrue trivial
  | some (.failed _) => isTrue trivial
  | none => isTrue trivial

/-- Every update that is written keeps the secret that is required. -/
def Kept (box : SecretBox) (s : WriteCores) : Act → Prop
  | .proceed i _ => KeptBy box s.store s.writes[i]?
  | _ => True

instance (box : SecretBox) (s : WriteCores) : (a : Act) → Decidable (Kept box s a)
  | .create _ => isTrue trivial
  | .createWithFolders _ _ => isTrue trivial
  | .update _ _ => isTrue trivial
  | .updateWithFolders _ _ _ => isTrue trivial
  | .delete _ => isTrue trivial
  | .proceed i _ => inferInstanceAs (Decidable (KeptBy box s.store s.writes[i]?))

variable {box : SecretBox} {repr : Str → Str} {nonce : Str} {store store' : Store}
  {row old : ServerRow} {serverId : Nat} {write write' : ServerWrite} {s s' : WriteCores} {a : Act}

/-- What the check of a request has found out for good: a secret that is sent is not empty when the
type that is sent requires one. -/
def Passed : ServerWrite → Prop
  | .creating data _ => data.type.requiresSecret = true →
      ∃ secret, data.secret = some secret ∧ secret ≠ []
  | .updating _ data _ _ => ∀ type ∈ data.type, type.requiresSecret = true →
      ∀ secret ∈ data.secret, secret.getD [] ≠ []
  | _ => True

/-- A secret that has been stored is resolved again. -/
lemma resolves_encrypt {secret : Str} (h : row.secretEncrypted = some (box.encrypt nonce secret))
    (hne : secret ≠ []) : Resolves box row := by
  refine ⟨secret, ?_, hne⟩
  rw [resolveSecret, h]
  show (box.decrypt _).map some = _
  rw [box.decrypt_encrypt]
  rfl

lemma resolves_congr (h : row.secretEncrypted = old.secretEncrypted) (hold : Resolves box old) :
    Resolves box row := by
  obtain ⟨secret, hr, hne⟩ := hold
  refine ⟨secret, ?_, hne⟩
  rw [resolveSecret, h]
  exact hr

lemma Secured.create {data : ServerCreate} {folders : Option (List FolderCreate)}
    (hsec : Secured box store) (hp : Passed (.creating data folders))
    (h : Store.Created box nonce store data row store') : Secured box store' := by
  intro other ho hreq
  rw [h.servers] at ho
  rcases List.mem_append.1 ho with ho | ho
  · exact hsec other ho hreq
  · cases List.mem_singleton.1 ho
    rw [h.type] at hreq
    obtain ⟨secret, hs, hne⟩ := hp hreq
    have hrow := h.secret
    rw [hs] at hrow
    exact resolves_encrypt hrow hne

/-- By what is sent: a type or not, a secret or not. -/
lemma Secured.update {data : ServerUpdate} {folders : Option (List FolderCreate)}
    {existing : ServerRow} (hsec : Secured box store)
    (hp : Passed (.updating serverId data folders existing))
    (hk : Keeps box store serverId data)
    (h : Store.Updated box nonce store serverId data old row store') : Secured box store' := by
  obtain ⟨hunset, hcleared⟩ := hk old h.found h.free
  intro other ho hreq
  rcases h.servers other ho with rfl | ho
  · rw [h.type] at hreq
    cases hsent : data.secret with
    | none =>
      apply resolves_congr (h.kept hsent)
      cases htype : data.type with
      | none =>
        rw [htype] at hreq
        exact hsec old (Store.mem_of_getServer h.found) hreq
      | some type =>
        rw [htype] at hreq
        exact hunset type htype hreq hsent
    | some secret =>
      have hne : secret.getD [] ≠ [] := by
        intro hempty
        cases htype : data.type with
        | none =>
          rw [htype] at hreq
          exact Bool.false_ne_true ((hcleared secret hsent hempty htype).symm.trans hreq)
        | some type =>
          rw [htype] at hreq
          exact hp type htype hreq secret hsent hempty
      have hrow := h.set secret hsent
      cases secret with
      | none => exact (hne rfl).elim
      | some secret => exact resolves_encrypt hrow hne
  · exact hsec other ho hreq

lemma requireSecretOr422_ok {type : ServerType} {has : Bool}
    (h : requireSecretOr422 repr type has = .ok ()) (hreq : type.requiresSecret = true) :
    has = true := by
  rw [requireSecretOr422, hreq] at h
  cases has with
  | true => rfl
  | false => cases h

/-- The check of an update that sends a type and a secret does not depend on the row. -/
lemma passed_updating {data : ServerUpdate} {existing : ServerRow}
    (h : requireUpdateSecret repr data existing = .ok ())
    (folders : Option (List FolderCreate)) :
    Passed (.updating serverId data folders existing) := by
  intro type htype hreq secret hsent
  have htype : data.type = some type := htype
  have hsent : data.secret = some secret := hsent
  rw [requireUpdateSecret, htype, hsent] at h
  exact of_decide_eq_true (requireSecretOr422_ok h hreq)

lemma passed_creating {data : ServerCreate}
    (h : requireSecretOr422 repr data.type (data.secret ≠ none && data.secret ≠ some []) = .ok ())
    (folders : Option (List FolderCreate)) : Passed (.creating data folders) := by
  intro hreq
  have hhas := requireSecretOr422_ok h hreq
  cases hs : data.secret with
  | none =>
    rw [hs] at hhas
    cases hhas
  | some secret =>
    refine ⟨secret, rfl, ?_⟩
    rintro rfl
    rw [hs] at hhas
    cases hhas

lemma passed_applyServerCreate (data : ServerCreate) :
    Passed (.applyServerCreate repr data) := by
  unfold ServerWrite.applyServerCreate
  split
  · trivial
  · next h => exact passed_creating h none

lemma passed_applyServerCreateWithFolders (data : ServerCreate) (folders : List FolderCreate) :
    Passed (.applyServerCreateWithFolders repr data folders) := by
  unfold ServerWrite.applyServerCreateWithFolders
  split
  · trivial
  · next h => exact passed_creating h (some folders)

/-- What a transaction of a request does. -/
inductive StepCase (box : SecretBox) (repr : Str → Str) (nonce : Str) (store : Store) :
    ServerWrite → ServerWrite → Store → Prop
  | created (data : ServerCreate) (folders : Option (List FolderCreate)) (row : ServerRow)
      (store' : Store) : Store.Created box nonce store data row store' →
      StepCase box repr nonce store (.creating data folders) .committed store'
  | checked (serverId : Nat) (data : ServerUpdate) (folders : Option (List FolderCreate))
      (existing : ServerRow) : requireUpdateSecret repr data existing = .ok () →
      StepCase box repr nonce store (.reading serverId data folders)
        (.updating serverId data folders existing) store
  | updated (serverId : Nat) (data : ServerUpdate) (folders : Option (List FolderCreate))
      (existing old row : ServerRow) (store' : Store) :
      Store.Updated box nonce store serverId data old row store' →
      StepCase box repr nonce store (.updating serverId data folders existing) .committed store'
  | deleted (serverId : Nat) :
      StepCase box repr nonce store (.deleting serverId) .committed (store.deleteServer serverId)
  | failed (write : ServerWrite) (error : WriteError) :
      StepCase box repr nonce store write (.failed error) store

lemma write_cases (hs : write.step box repr nonce store = some (write', store')) :
    StepCase box repr nonce store write write' store' := by
  cases write with
  | creating data folders =>
    cases folders with
    | none =>
      rw [ServerWrite.step] at hs
      split at hs
      · cases hs
        exact .failed _ _
      · next hw =>
        cases hs
        exact .created data none _ _ (Store.createServer_ok hw)
    | some folders =>
      rw [ServerWrite.step] at hs
      split at hs
      · cases hs
        exact .failed _ _
      · next hw =>
        cases hs
        exact .created data (some folders) _ _ (Store.createServerWithFolders_ok hw)
  | reading serverId data folders =>
    rw [ServerWrite.step] at hs
    split at hs
    · cases hs
      exact .failed _ _
    · split at hs
      · cases hs
        exact .failed _ _
      · next hok =>
        cases hs
        exact .checked serverId data folders _ hok
  | updating serverId data folders existing =>
    cases folders with
    | none =>
      rw [ServerWrite.step] at hs
      split at hs
      · cases hs
        exact .failed _ _
      · next hw =>
        cases hs
        obtain ⟨old, hu⟩ := Store.updateServer_ok hw
        exact .updated serverId data none existing old _ _ hu
    | some folders =>
      rw [ServerWrite.step] at hs
      split at hs
      · cases hs
        exact .failed _ _
      · cases hs
        exact .failed _ _
      · next hw =>
        cases hs
        obtain ⟨old, hu⟩ := Store.updateServerWithFolders_ok hw
        exact .updated serverId data (some folders) existing old _ _ hu
  | deleting serverId =>
    cases hs
    exact .deleted serverId
  | committed => cases hs
  | failed error => cases hs

lemma secured_step (hsec : Secured box store) (hp : Passed write)
    (hg : KeptBy box store (some write))
    (hs : write.step box repr nonce store = some (write', store')) :
    Secured box store' ∧ Passed write' := by
  cases write_cases hs with
  | created data folders row _ hc => exact ⟨hsec.create hp hc, trivial⟩
  | checked serverId data folders existing hok => exact ⟨hsec, passed_updating hok folders⟩
  | updated serverId data folders existing old row _ hu => exact ⟨hsec.update hp hg hu, trivial⟩
  | deleted serverId => exact ⟨fun row hr => hsec row (Store.mem_of_deleteServer hr), trivial⟩
  | failed _ error => exact ⟨hsec, trivial⟩

/-- A transaction keeps the ids of the servers distinct. -/
lemma nodup_step (hids : store.ids.Nodup)
    (hs : write.step box repr nonce store = some (write', store')) : store'.ids.Nodup := by
  cases write_cases hs with
  | created data folders row _ hc => exact hc.nodup hids
  | checked serverId data folders existing hok => exact hids
  | updated serverId data folders existing old row _ hu =>
    rw [hu.ids]
    exact hids
  | deleted serverId => exact Store.nodup_deleteServer hids
  | failed _ error => exact hids

/-- The invariant: the store is secured, and every request that is about to write has passed its
check. -/
structure Guarded (box : SecretBox) (s : WriteCores) : Prop where
  secured : Secured box s.store
  passed : ∀ write ∈ s.writes, Passed write

lemma Guarded.arrive (h : Guarded box s) (hp : Passed write) : Guarded box (s.arrive write) := by
  refine ⟨h.secured, fun other ho => ?_⟩
  rcases List.mem_append.1 ho with ho | ho
  · exact h.passed other ho
  · cases List.mem_singleton.1 ho
    exact hp

/-- A request arrives, or one goes on with a transaction. -/
lemma step_cases (hs : step box repr s a = some s') :
    (∃ write, s' = s.arrive write ∧ Passed write) ∨
      ∃ i nonce write write' store, a = .proceed i nonce ∧ s.writes[i]? = some write ∧
        write.step box repr nonce s.store = some (write', store) ∧
        s' = ⟨store, s.writes.set i write'⟩ := by
  cases a with
  | create data =>
    cases hs
    exact .inl ⟨_, rfl, passed_applyServerCreate data⟩
  | createWithFolders data folders =>
    cases hs
    exact .inl ⟨_, rfl, passed_applyServerCreateWithFolders data folders⟩
  | update serverId data =>
    cases hs
    exact .inl ⟨_, rfl, trivial⟩
  | updateWithFolders serverId data folders =>
    cases hs
    exact .inl ⟨_, rfl, trivial⟩
  | delete serverId =>
    cases hs
    exact .inl ⟨_, rfl, trivial⟩
  | proceed i nonce =>
    obtain ⟨write, hi, hs⟩ := Option.bind_eq_some_iff.1 hs
    obtain ⟨⟨write', store⟩, hw, hs⟩ := Option.bind_eq_some_iff.1 hs
    cases hs
    exact .inr ⟨i, nonce, write, write', store, rfl, hi, hw, rfl⟩

lemma Guarded.step (h : Guarded box s) (hg : Kept box s a) (hs : step box repr s a = some s') :
    Guarded box s' := by
  rcases step_cases hs with ⟨write, rfl, hp⟩ | ⟨i, nonce, write, write', store, rfl, hi, hw, rfl⟩
  · exact h.arrive hp
  · have hg : KeptBy box s.store s.writes[i]? := hg
    rw [hi] at hg
    obtain ⟨hsec, hp⟩ := secured_step h.secured (h.passed write (List.mem_of_getElem? hi)) hg hw
    refine ⟨hsec, fun other ho => ?_⟩
    rcases List.mem_or_eq_of_mem_set ho with ho | rfl
    · exact h.passed other ho
    · exact hp

/-- While every update that is written keeps the secret that is required, every server whose type
requires a secret resolves to one that is not empty. -/
theorem secret_required (box : SecretBox) (repr : Str → Str) (hsec : Secured box store)
    (h : Reach (step box repr) (Kept box) ⟨store, []⟩ s) :
    ∀ row ∈ s.store.servers, row.type.requiresSecret = true →
      ∃ secret, resolveSecret box.decrypt row.toServer = some (some secret) ∧ secret ≠ [] := by
  have hinit : Guarded box ⟨store, []⟩ := ⟨hsec, fun _ hw => (by cases hw)⟩
  have hguarded : Guarded box s := h.invariant hinit fun hu hg hs => hu.step hg hs
  exact hguarded.secured

/-- Whatever the requests, the ids of the servers stay distinct. -/
theorem ids_distinct (box : SecretBox) (repr : Str → Str) (hids : store.ids.Nodup)
    (h : Reach (step box repr) Free ⟨store, []⟩ s) : s.store.ids.Nodup := by
  apply h.invariant (P := fun s => s.store.ids.Nodup) hids
  intro u a v hu _ hs
  rcases step_cases hs with ⟨write, rfl, -⟩ | ⟨i, nonce, write, write', store, -, -, hw, rfl⟩
  · exact hu
  · exact nodup_step hu hw

/-- A configuration that is built from a secured store serves every server whose type requires a
secret with one. -/
theorem served_with_secret {lower : Str → Str} {settings : List (Str × Str)}
    {config : RuntimeConfig} (hsec : Secured box store) (hids : store.ids.Nodup)
    (h : buildRuntimeConfig lower box.decrypt (store.toDb settings) = some config) :
    ∀ row ∈ store.servers, row.enabled = true → row.type.requiresSecret = true →
      ∃ secret, config.servers.lookup row.id = some (row.toServer.runtime (some secret)) ∧
        secret ≠ [] := by
  intro row hr he hreq
  obtain ⟨secret, hsecret, hne⟩ := hsec row hr hreq
  have hdb : ((store.toDb settings).servers.map Server.id).Nodup := by
    have hmap : (store.toDb settings).servers.map Server.id = store.ids := List.map_map
    rw [hmap]
    exact hids
  have hmem : row.toServer ∈ (store.toDb settings).servers := List.mem_map_of_mem hr
  exact ⟨secret, ((buildRuntimeConfig_has h).entry hdb hmem he hsecret).1, hne⟩

/-- A box whose tokens are the nonce and the text. -/
def openBox : SecretBox :=
  ⟨fun _ plaintext => plaintext, some, fun _ _ => rfl⟩

/-- The quotes that `repr` puts around a plain text. -/
def quoted (text : Str) : Str :=
  Char.ofNat 39 :: text ++ [Char.ofNat 39]

/-- The request for a webhook with an empty secret. -/
def hook : ServerCreate :=
  { name := "hook".toList, type := .webhook, secret := some [], name_not_blank := by decide }

/-- The request that makes a server a Plex server. -/
def toPlex : ServerUpdate :=
  { type := some .plex, name_not_blank := fun _ h => (by cases h) }

/-- The request for a Plex server. -/
def plexServer : ServerCreate :=
  { name := "plex".toList, type := .plex, secret := some "t".toList, name_not_blank := plex_not_blank }

/-- The request that makes a server a Plex server with a secret. -/
def toPlexWith : ServerUpdate :=
  { type := some .plex, secret := some (some "u".toList),
    name_not_blank := fun _ h => (by cases h) }

/-- The request that clears a secret. -/
def clearing : ServerUpdate :=
  { secret := some none, name_not_blank := fun _ h => (by cases h) }

/-- A Plex server keeps its secret, which a request wants to clear while a webhook with an empty
secret becomes a Plex server with one. -/
theorem secret_required_changed :
    ∃ s, run (guarded (step openBox quoted) (Kept openBox)) ⟨⟨[], []⟩, []⟩
        [.create plexServer, .createWithFolders hook [⟨"/m".toList, none, none, [], true, rfl⟩],
          .proceed 1 [], .proceed 0 [], .updateWithFolders 1 toPlexWith [], .update 2 clearing,
          .proceed 2 [], .proceed 3 [], .proceed 2 []] = some s ∧
      (∃ error, s.writes[3]? = some (.failed error)) ∧
      ∀ row ∈ s.store.servers, row.type.requiresSecret = true →
        ∃ secret, resolveSecret openBox.decrypt row.toServer = some (some secret) ∧
          secret ≠ [] := by
  have hrun : run (guarded (step openBox quoted) (Kept openBox)) ⟨⟨[], []⟩, []⟩
      [.create plexServer, .createWithFolders hook [⟨"/m".toList, none, none, [], true, rfl⟩],
        .proceed 1 [], .proceed 0 [], .updateWithFolders 1 toPlexWith [], .update 2 clearing,
        .proceed 2 [], .proceed 3 [], .proceed 2 []] = some _ := rfl
  have hempty : Secured openBox ⟨[], []⟩ := fun _ hr => (by cases hr)
  exact ⟨_, hrun, ⟨_, rfl⟩, secret_required openBox quoted hempty (Reach.of_run hrun)⟩

/-- A webhook whose stored secret is the empty text becomes a Plex server. -/
theorem secret_empty :
    ¬ ∀ (box : SecretBox) (repr : Str → Str) (acts : List Act) (s : WriteCores),
      run (step box repr) ⟨⟨[], []⟩, []⟩ acts = some s →
      ∀ row ∈ s.store.servers, row.type.requiresSecret = true →
        ∃ secret, resolveSecret box.decrypt row.toServer = some (some secret) ∧ secret ≠ [] := by
  intro h
  have hrun : run (step openBox quoted) ⟨⟨[], []⟩, []⟩
      [.create hook, .proceed 0 [], .update 1 toPlex, .proceed 1 [], .proceed 1 []] = some _ := rfl
  obtain ⟨secret, hr, hne⟩ := h openBox quoted _ _ hrun _ (List.mem_singleton_self _) rfl
  cases hr
  exact hne rfl

end WriteCores
end MediaScanMonitor
