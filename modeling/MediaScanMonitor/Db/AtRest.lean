import MediaScanMonitor.Config.Content
import MediaScanMonitor.Db.Folders

/-!
# Secrets at rest

Two runs of the repository's writes that differ in the secrets alone: in what they are, or in how
they are encrypted. `Related` is kept by every write, with any relation on the column of the secret
that the writes themselves respect. With encryption on the one side and none on the other, it says
that the configuration is what it would be without encryption.
-/

namespace MediaScanMonitor
open Text

/-- The row without its secret. -/
def ServerRow.masked (row : ServerRow) : ServerRow :=
  { row with secretEncrypted := none }

/-- Rows that agree but for the secret, whose columns are related. -/
structure RowRelated (R : Option Str → Option Str → Prop) (a b : ServerRow) : Prop where
  masked : a.masked = b.masked
  secret : R a.secretEncrypted b.secretEncrypted

/-- The same for the tables. -/
structure Related (R : Option Str → Option Str → Prop) (s t : Store) : Prop where
  servers : List.Forall₂ (RowRelated R) s.servers t.servers
  folders : s.folders = t.folders

/-- Two commits that go through with related rows and tables, or raise the same. -/
inductive CommitRelated (R : Option Str → Option Str → Prop) :
    Except RepoError (ServerRow × Store) → Except RepoError (ServerRow × Store) → Prop
  | ok (a b : ServerRow) (s t : Store) : RowRelated R a b → Related R s t →
      CommitRelated R (.ok (a, s)) (.ok (b, t))
  | error (error : RepoError) : CommitRelated R (.error error) (.error error)

/-- Two secrets of a request that the boxes make related columns of. -/
def SecretsAlike (R : Option Str → Option Str → Prop) (box box' : SecretBox) (nonce nonce' : Str)
    (secret secret' : Option Str) : Prop :=
  R (secret.map (box.encrypt nonce)) (secret'.map (box'.encrypt nonce'))

/-- Two writes that agree but for the secret, what is random about its token, and the box. -/
inductive WritesAlike (R : Option Str → Option Str → Prop) (box box' : SecretBox) :
    RepoWrite → RepoWrite → Prop
  | createServer (nonce nonce' : Str) (data : ServerCreate) (secret : Option Str) :
      SecretsAlike R box box' nonce nonce' data.secret secret →
      WritesAlike R box box' (.createServer nonce data)
        (.createServer nonce' { data with secret := secret })
  | createServerWithFolders (nonce nonce' : Str) (data : ServerCreate) (secret : Option Str)
      (folders : List FolderCreate) :
      SecretsAlike R box box' nonce nonce' data.secret secret →
      WritesAlike R box box' (.createServerWithFolders nonce data folders)
        (.createServerWithFolders nonce' { data with secret := secret } folders)
  | updateServer (nonce nonce' : Str) (serverId : Nat) (data : ServerUpdate)
      (secret : Option (Option Str)) :
      Option.Rel (SecretsAlike R box box' nonce nonce') data.secret secret →
      WritesAlike R box box' (.updateServer nonce serverId data)
        (.updateServer nonce' serverId { data with secret := secret })
  | updateServerWithFolders (nonce nonce' : Str) (serverId : Nat) (data : ServerUpdate)
      (secret : Option (Option Str)) (folders : List FolderCreate) :
      Option.Rel (SecretsAlike R box box' nonce nonce') data.secret secret →
      WritesAlike R box box' (.updateServerWithFolders nonce serverId data folders)
        (.updateServerWithFolders nonce' serverId { data with secret := secret } folders)
  | deleteServer (serverId : Nat) :
      WritesAlike R box box' (.deleteServer serverId) (.deleteServer serverId)
  | createFolder (serverId : Nat) (data : FolderCreate) :
      WritesAlike R box box' (.createFolder serverId data) (.createFolder serverId data)
  | updateFolder (folderId : Nat) (data : FolderUpdate) :
      WritesAlike R box box' (.updateFolder folderId data) (.updateFolder folderId data)
  | deleteFolder (folderId : Nat) :
      WritesAlike R box box' (.deleteFolder folderId) (.deleteFolder folderId)
  | setFiletypes (folderId : Nat) (extensions : List Str) :
      WritesAlike R box box' (.setFiletypes folderId extensions) (.setFiletypes folderId extensions)

/-- The tables after some writes. -/
def Store.writeAll (box : SecretBox) (lower : Str → Str) (s : Store) (writes : List RepoWrite) :
    Store :=
  writes.foldl (Store.write box lower) s

/-- The tables of a new installation. -/
def Store.empty : Store :=
  ⟨[], []⟩

variable {R : Option Str → Option Str → Prop} {box box' : SecretBox} {lower : Str → Str}
  {nonce nonce' : Str} {s s' t t' : Store} {a b : ServerRow} {w w' : RepoWrite}
  {ws ws' : List RepoWrite}

namespace RowRelated

lemma id_eq (h : RowRelated R a b) : a.id = b.id := by
  have hid := congrArg (fun row : ServerRow => row.id) h.masked
  exact hid

lemma name_eq (h : RowRelated R a b) : a.name = b.name := by
  have hname := congrArg (fun row : ServerRow => row.name) h.masked
  exact hname

lemma enabled_eq (h : RowRelated R a b) : a.enabled = b.enabled := by
  have henabled := congrArg (fun row : ServerRow => row.enabled) h.masked
  exact henabled

/-- What is written for a creation. -/
lemma created {data : ServerCreate} {secret : Option Str} (serverId : Nat)
    (h : SecretsAlike R box box' nonce nonce' data.secret secret) :
    RowRelated R (Store.created box nonce serverId data)
      (Store.created box' nonce' serverId { data with secret := secret }) :=
  ⟨rfl, h⟩

/-- What is written for an update, in place of related rows. -/
lemma written {data : ServerUpdate} {secret : Option (Option Str)} (h : RowRelated R a b)
    (hsecret : Option.Rel (SecretsAlike R box box' nonce nonce') data.secret secret) :
    RowRelated R (Store.written box nonce data a)
      (Store.written box' nonce' { data with secret := secret } b) := by
  rw [Store.written_eq, Store.written_eq]
  constructor
  · have hset : (data.setFields a).masked = (data.setFields b).masked := by
      have hset : (data.setFields a.masked).masked = (data.setFields b.masked).masked := by
        rw [h.masked]
      exact hset
    have htypes := congrArg (fun row : ServerRow => row.eventTypes) h.masked
    have htypes : a.eventTypes = b.eventTypes := htypes
    show ({ (data.setFields a).masked with
        eventTypes := (data.eventTypes.join.map serializeEventTypes).getD a.eventTypes } :
          ServerRow) =
      { (data.setFields b).masked with
        eventTypes := (data.eventTypes.join.map serializeEventTypes).getD b.eventTypes }
    rw [hset, htypes]
  · show R ((data.secret.map _).getD _) ((secret.map _).getD _)
    generalize data.secret = sent at hsecret
    cases hsecret with
    | some hsent => exact hsent
    | none => exact h.secret

end RowRelated

namespace Related

lemma ids (h : Related R s t) : s.ids = t.ids := by
  have hids : ∀ {l l' : List ServerRow}, List.Forall₂ (RowRelated R) l l' →
      l.map (fun row => row.id) = l'.map fun row => row.id := by
    intro l l' hl
    induction hl with
    | nil => rfl
    | cons hrow _ ih => rw [List.map_cons, List.map_cons, hrow.id_eq, ih]
  exact hids h.servers

lemma nameTaken (h : Related R s t) (serverId : Nat) (name : Str) :
    s.nameTaken serverId name = t.nameTaken serverId name := by
  have hany : ∀ {l l' : List ServerRow}, List.Forall₂ (RowRelated R) l l' →
      (l.any fun row => row.id ≠ serverId && row.name = name) =
        l'.any fun row => row.id ≠ serverId && row.name = name := by
    intro l l' hl
    induction hl with
    | nil => rfl
    | cons hrow _ ih => rw [List.any_cons, List.any_cons, hrow.id_eq, hrow.name_eq, ih]
  exact hany h.servers

/-- The rows that are found under an id are related. -/
lemma getServer (h : Related R s t) (serverId : Nat) :
    Option.Rel (RowRelated R) (s.getServer serverId) (t.getServer serverId) := by
  have hfind : ∀ {l l' : List ServerRow}, List.Forall₂ (RowRelated R) l l' →
      Option.Rel (RowRelated R) (l.find? fun row => row.id = serverId)
        (l'.find? fun row => row.id = serverId) := by
    intro l l' hl
    induction hl with
    | nil => exact .none
    | @cons a b _ _ hrow _ ih =>
      by_cases hid : a.id = serverId
      · have hid' : b.id = serverId := hrow.id_eq.symm.trans hid
        simp only [List.find?_cons, decide_eq_true hid, decide_eq_true hid']
        exact .some hrow
      · have hid' : ¬ b.id = serverId := fun hb => hid (hrow.id_eq.trans hb)
        simp only [List.find?_cons, decide_eq_false hid, decide_eq_false hid']
        exact ih
  exact hfind h.servers

/-- Of two commits either both go through or neither does. -/
lemma insertServer (h : Related R s t) (hrow : RowRelated R a b) :
    CommitRelated R (s.insertServer a) (t.insertServer b) := by
  unfold Store.insertServer
  rw [hrow.id_eq, hrow.name_eq, h.nameTaken]
  split
  · exact .error _
  · exact .ok _ _ _ _ hrow ⟨List.rel_append h.servers (.cons hrow .nil), h.folders⟩

lemma replaceServer (h : Related R s t) (hrow : RowRelated R a b) :
    CommitRelated R (s.replaceServer a) (t.replaceServer b) := by
  unfold Store.replaceServer
  rw [hrow.id_eq, hrow.name_eq, h.nameTaken]
  split
  · exact .error _
  · refine .ok _ _ _ _ hrow ⟨?_, h.folders⟩
    show List.Forall₂ _ (s.servers.map _) (t.servers.map _)
    rw [List.forall₂_map_left_iff, List.forall₂_map_right_iff]
    apply h.servers.imp
    intro old old' hold
    rw [hold.id_eq]
    split
    · exact hrow
    · exact hold

lemma after {x y : Except RepoError (ServerRow × Store)} (h : Related R s t)
    (hc : CommitRelated R x y) : Related R (s.after x) (t.after y) := by
  cases hc with
  | ok a b s' t' hrow hrel => exact hrel
  | error => exact h

lemma setServerFolders (h : Related R s t) (serverId : Nat) (folders : List FolderCreate) :
    Related R (s.setServerFolders serverId folders) (t.setServerFolders serverId folders) := by
  refine ⟨h.servers, ?_⟩
  unfold Store.setServerFolders
  rw [h.folders]

lemma deleteServer (h : Related R s t) (serverId : Nat) :
    Related R (s.deleteServer serverId) (t.deleteServer serverId) := by
  have hfilter : ∀ {l l' : List ServerRow}, List.Forall₂ (RowRelated R) l l' →
      List.Forall₂ (RowRelated R) (l.filter fun row => row.id ≠ serverId)
        (l'.filter fun row => row.id ≠ serverId) := by
    intro l l' hl
    induction hl with
    | nil => exact .nil
    | @cons a b _ _ hrow _ ih =>
      rw [List.filter_cons, List.filter_cons, hrow.id_eq]
      split
      · exact .cons hrow ih
      · exact ih
  refine ⟨hfilter h.servers, ?_⟩
  unfold Store.deleteServer
  rw [h.folders]

/-- The writes of folders see the ids of the servers only. -/
lemma createFolder (h : Related R s t) (serverId : Nat) (data : FolderCreate) :
    Related R (s.after (s.createFolder serverId data)) (t.after (t.createFolder serverId data)) := by
  unfold Store.createFolder
  rw [h.ids]
  split
  · refine ⟨h.servers, ?_⟩
    show s.folders ++ [_] = t.folders ++ [_]
    rw [Store.folderIds, Store.folderIds, h.folders]
  · exact h

lemma getFolder (h : Related R s t) (folderId : Nat) : s.getFolder folderId = t.getFolder folderId := by
  rw [Store.getFolder, Store.getFolder, h.folders]

lemma replaceFolder (h : Related R s t) (folder : FolderRow) :
    Related R (s.replaceFolder folder) (t.replaceFolder folder) := by
  refine ⟨h.servers, ?_⟩
  unfold Store.replaceFolder
  rw [h.folders]

lemma createServer {data : ServerCreate} {secret : Option Str} (h : Related R s t)
    (hsecret : SecretsAlike R box box' nonce nonce' data.secret secret) :
    CommitRelated R (s.createServer box nonce data)
      (t.createServer box' nonce' { data with secret := secret }) := by
  rw [Store.createServer_eq, Store.createServer_eq, h.ids]
  exact h.insertServer (.created _ hsecret)

lemma createServerWithFolders {data : ServerCreate} {secret : Option Str} (h : Related R s t)
    (hsecret : SecretsAlike R box box' nonce nonce' data.secret secret)
    (folders : List FolderCreate) :
    CommitRelated R (s.createServerWithFolders box nonce data folders)
      (t.createServerWithFolders box' nonce' { data with secret := secret } folders) := by
  rw [Store.createServerWithFolders_eq, Store.createServerWithFolders_eq, h.ids]
  exact (h.setServerFolders _ folders).insertServer (.created _ hsecret)

lemma updateServer {data : ServerUpdate} {secret : Option (Option Str)} (h : Related R s t)
    (serverId : Nat) (hsecret : Option.Rel (SecretsAlike R box box' nonce nonce') data.secret secret) :
    CommitRelated R (s.updateServer box nonce serverId data)
      (t.updateServer box' nonce' serverId { data with secret := secret }) := by
  rw [Store.updateServer_eq, Store.updateServer_eq]
  have hfound := h.getServer serverId
  generalize s.getServer serverId = old at hfound
  generalize t.getServer serverId = old' at hfound
  cases hfound with
  | none => exact .error _
  | some hrow => exact h.replaceServer (hrow.written hsecret)

lemma updateServerWithFolders {data : ServerUpdate} {secret : Option (Option Str)}
    (h : Related R s t) (serverId : Nat)
    (hsecret : Option.Rel (SecretsAlike R box box' nonce nonce') data.secret secret)
    (folders : List FolderCreate) :
    CommitRelated R (s.updateServerWithFolders box nonce serverId data folders)
      (t.updateServerWithFolders box' nonce' serverId { data with secret := secret } folders) := by
  rw [Store.updateServerWithFolders_eq, Store.updateServerWithFolders_eq]
  have hfound := h.getServer serverId
  generalize s.getServer serverId = old at hfound
  generalize t.getServer serverId = old' at hfound
  cases hfound with
  | none => exact .error _
  | some hrow => exact (h.setServerFolders serverId folders).replaceServer (hrow.written hsecret)

/-- One write on each side; a case for each write. -/
lemma write (h : Related R s t) (hw : WritesAlike R box box' w w') :
    Related R (s.write box lower w) (t.write box' lower w') := by
  cases hw with
  | createServer nonce nonce' data secret hsecret => exact h.after (h.createServer hsecret)
  | createServerWithFolders nonce nonce' data secret folders hsecret =>
    exact h.after (h.createServerWithFolders hsecret folders)
  | updateServer nonce nonce' serverId data secret hsecret =>
    exact h.after (h.updateServer serverId hsecret)
  | updateServerWithFolders nonce nonce' serverId data secret folders hsecret =>
    exact h.after (h.updateServerWithFolders serverId hsecret folders)
  | deleteServer serverId => exact h.deleteServer serverId
  | createFolder serverId data => exact h.createFolder serverId data
  | updateFolder folderId data =>
    rw [Store.write, Store.write, Store.updateFolder, Store.updateFolder, h.getFolder]
    cases t.getFolder folderId with
    | none => exact h
    | some folder => exact h.replaceFolder _
  | deleteFolder folderId =>
    refine ⟨h.servers, ?_⟩
    show s.folders.filter _ = t.folders.filter _
    rw [h.folders]
  | setFiletypes folderId extensions =>
    rw [Store.write, Store.write, Store.setFiletypes, Store.setFiletypes, h.getFolder]
    cases t.getFolder folderId with
    | none => exact h
    | some folder => exact h.replaceFolder _

/-- Any number of writes. -/
theorem writeAll (h : Related R s t) (hws : List.Forall₂ (WritesAlike R box box') ws ws') :
    Related R (s.writeAll box lower ws) (t.writeAll box' lower ws') := by
  induction hws generalizing s t with
  | nil => exact h
  | cons hw _ ih => exact ih (h.write hw)

lemma empty (R : Option Str → Option Str → Prop) : Related R .empty .empty :=
  ⟨.nil, rfl⟩

end Related

/-! ## Rows -/

namespace Store

/-- The keys of any number of writes. -/
lemma Keyed.writeAll (box : SecretBox) (lower : Str → Str) (h : s.Keyed) (ws : List RepoWrite) :
    (s.writeAll box lower ws).Keyed := by
  induction ws generalizing s with
  | nil => exact h
  | cons w ws ih => exact ih (h.write box lower w)

end Store

/-! ## The configuration -/

/-- The stored secret is that of the plaintext. -/
def Decrypts (box : SecretBox) (stored plaintext : Option Str) : Prop :=
  (match stored with
    | none => some none
    | some token => (box.decrypt token).map some) = some plaintext

lemma decrypts_encrypt (box : SecretBox) (nonce : Str) (secret : Option Str) :
    Decrypts box (secret.map (box.encrypt nonce)) secret := by
  cases secret with
  | none => rfl
  | some secret =>
    show (box.decrypt (box.encrypt nonce secret)).map some = _
    rw [box.decrypt_encrypt]
    rfl

/-- A round of the loop reads the secret of a row and what related rows have in common. -/
lemma RowRelated.addServer (h : RowRelated (Decrypts box) a b) (config : RuntimeConfig)
    (folders : List Folder) :
    config.addServer lower box.decrypt a.toServer folders =
      config.addServer lower some b.toServer folders := by
  have hclear : resolveSecret some b.toServer = some b.secretEncrypted := by
    rw [resolveSecret]
    cases b.secretEncrypted <;> rfl
  have hsecret : resolveSecret box.decrypt a.toServer = some b.secretEncrypted := h.secret
  have hruntime : ∀ secret, a.toServer.runtime secret = b.toServer.runtime secret := by
    intro secret
    have heq := congrArg (fun row : ServerRow => row.toServer.runtime secret) h.masked
    exact heq
  have hroute : ∀ types, a.toServer.route lower types = b.toServer.route lower types := by
    intro types
    have heq := congrArg (fun row : ServerRow => row.toServer.route lower types) h.masked
    exact heq
  have htypes := congrArg (fun row : ServerRow => row.eventTypes) h.masked
  have htypes : a.eventTypes = b.eventTypes := htypes
  have hid : a.id = b.id := h.id_eq
  unfold RuntimeConfig.addServer
  rw [hclear, hsecret, htypes, hid]
  simp only [hruntime, hroute]

lemma foldlM_related {rows rows' : List ServerRow}
    (h : List.Forall₂ (RowRelated (Decrypts box)) rows rows') (db db' : Db)
    (hfolders : db.folders = db'.folders) (config : RuntimeConfig) :
    ((rows.map ServerRow.toServer).filter Server.enabled).foldlM (fun config server =>
        config.addServer lower box.decrypt server (db.listFolders server.id)) config =
      ((rows'.map ServerRow.toServer).filter Server.enabled).foldlM (fun config server =>
        config.addServer lower some server (db'.listFolders server.id)) config := by
  induction h generalizing config with
  | nil => rfl
  | @cons a b rows rows' hrow _ ih =>
    have henabled : a.enabled = b.enabled := hrow.enabled_eq
    have hid : a.id = b.id := hrow.id_eq
    rw [List.map_cons, List.map_cons, List.filter_cons, List.filter_cons, henabled]
    split
    · rw [List.foldlM_cons, List.foldlM_cons, hrow.addServer, Db.listFolders, Db.listFolders,
        hfolders, hid]
      congr 1
      funext config
      exact ih config
    · exact ih config

lemma Related.buildRuntimeConfig (h : Related (Decrypts box) s t) (settings : List (Str × Str)) :
    buildRuntimeConfig lower box.decrypt (s.toDb settings) =
      MediaScanMonitor.buildRuntimeConfig lower some (t.toDb settings) := by
  apply foldlM_related h.servers
  show s.folders.map _ = t.folders.map _
  rw [h.folders]

end MediaScanMonitor
