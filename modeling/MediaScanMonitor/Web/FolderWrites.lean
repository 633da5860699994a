import MediaScanMonitor.Db.Folders
import MediaScanMonitor.Lib.Transition

/-!
# Folder requests

`PATCH` and `DELETE` of `/api/servers/{server_id}/folders/{folder_id}`. A request looks the server up,
then the folder, then writes the folder by its id alone: three transactions, with any writes between
them. An id that is free again is given to the next folder, of whatever server.
-/

namespace MediaScanMonitor
open Text Transition

/-- The request. -/
inductive FolderOp
  /-- `update_folder`. -/
  | patch (data : FolderUpdate)
  /-- `delete_folder`. -/
  | delete

/-- Where a request is. -/
inductive FolderPhase
  /-- Before `_require_server`. -/
  | requireServer
  /-- Before `_owned_folder`. -/
  | ownedFolder
  /-- Both checks are passed, the folder is about to be written. -/
  | writing
  /-- The write is committed; the rebuild comes next. -/
  | written
  /-- An `HTTPException`. -/
  | http (status : Nat) (detail : Str)
  | failed (error : FolderError)
deriving DecidableEq

structure FolderCall where
  serverId : Nat
  folderId : Nat
  op : FolderOp
  phase : FolderPhase

namespace FolderCall

/-- The transaction that writes the folder. -/
def write (call : FolderCall) : RepoWrite :=
  match call.op with
  | .patch data => .updateFolder call.folderId data
  | .delete => .deleteFolder call.folderId

/-- `_require_server`. -/
def requireServer (db : Database) (call : FolderCall) : FolderPhase :=
  match db.getServer call.serverId with
  | none => .http 404 "server not found".toList
  | some _ => .ownedFolder

/-- `_owned_folder`. -/
def ownedFolder (db : Database) (call : FolderCall) : FolderPhase :=
  match db.getFolder call.folderId with
  | none => .http 404 "folder not found".toList
  | some folder =>
    if folder.serverId ≠ call.serverId then .http 404 "folder not found".toList else .writing

/-- `apply_folder_update` and `apply_folder_delete`, up to the rebuild. -/
def writeFolder (lower : Str → Str) (db : Database) (call : FolderCall) : FolderPhase :=
  match call.op with
  | .patch data =>
    match db.updateFolder lower call.folderId data with
    | .error error => .failed error
    | .ok _ => .written
  | .delete => .written

/-- The next transaction of a request. -/
def step (box : SecretBox) (lower : Str → Str) (db : Database) (call : FolderCall) :
    Option (FolderCall × Database) :=
  match call.phase with
  | .requireServer => some ({ call with phase := call.requireServer db }, db)
  | .ownedFolder => some ({ call with phase := call.ownedFolder db }, db)
  | .writing => some ({ call with phase := call.writeFolder lower db }, db.write box lower call.write)
  | .written => none
  | .http _ _ => none
  | .failed _ => none

end FolderCall

/-- The database and the requests for single folders. -/
structure FolderRequests where
  db : Database
  calls : List FolderCall

namespace FolderRequests

inductive Act
  | request (serverId folderId : Nat) (op : FolderOp)
  /-- A request goes on. -/
  | proceed (i : Nat)
  /-- Another write: of a server, with its folders or without, or of a folder. -/
  | write (w : RepoWrite)

def step (box : SecretBox) (lower : Str → Str) (s : FolderRequests) : Act → Option FolderRequests
  | .request serverId folderId op =>
    some { s with calls := s.calls ++ [⟨serverId, folderId, op, .requireServer⟩] }
  | .proceed i => do
    let (call, db) ← (← s.calls[i]?).step box lower s.db
    pure { db := db, calls := s.calls.set i call }
  | .write w => some { s with db := s.db.write box lower w }

/-- A write that takes a free id, on which a request is about to act, takes it for a folder of the
same server. -/
def Spared (db db' : Database) (call : FolderCall) : Prop :=
  call.phase = .writing → db.getFolder call.folderId = none →
    ∀ folder ∈ db'.getFolder call.folderId, folder.serverId = call.serverId

instance (db db' : Database) (call : FolderCall) : Decidable (Spared db db' call) :=
  inferInstanceAs (Decidable (call.phase = .writing → db.getFolder call.folderId = none →
    ∀ folder ∈ db'.getFolder call.folderId, folder.serverId = call.serverId))

/-- No id that a request has checked is given to another server. -/
def Spares (box : SecretBox) (lower : Str → Str) (s : FolderRequests) : Act → Prop
  | .write w => ∀ call ∈ s.calls, Spared s.db (s.db.write box lower w) call
  | _ => True

instance (box : SecretBox) (lower : Str → Str) (s : FolderRequests) :
    (a : Act) → Decidable (Spares box lower s a)
  | .request _ _ _ => isTrue trivial
  | .proceed _ => isTrue trivial
  | .write w => inferInstanceAs
    (Decidable (∀ call ∈ s.calls, Spared s.db (s.db.write box lower w) call))

variable {box : SecretBox} {lower : Str → Str} {db db' : Database} {s t : FolderRequests} {a : Act}
  {call call' : FolderCall} {row : FolderRow}

/-- What a transaction of a request does: the checks read, and the write is one of the
repository. -/
inductive StepCase (box : SecretBox) (lower : Str → Str) (db : Database) (call : FolderCall) :
    FolderPhase → Database → Prop
  | checking (phase : FolderPhase) :
      (phase = .writing → ∀ folder ∈ db.getFolder call.folderId, folder.serverId = call.serverId) →
      StepCase box lower db call phase db
  | writing (phase : FolderPhase) : call.phase = .writing → phase ≠ .writing →
      StepCase box lower db call phase (db.write box lower call.write)

lemma ownedFolder_writing (h : call.ownedFolder db = .writing) :
    ∀ folder ∈ db.getFolder call.folderId, folder.serverId = call.serverId := by
  unfold FolderCall.ownedFolder at h
  split at h
  · cases h
  · next folder hf =>
    split at h
    · cases h
    · next hserver =>
      rw [hf]
      rintro _ ⟨⟩
      exact not_not.1 hserver

lemma requireServer_ne (db : Database) (call : FolderCall) : call.requireServer db ≠ .writing := by
  unfold FolderCall.requireServer
  split <;> exact nofun

lemma writeFolder_ne (lower : Str → Str) (db : Database) (call : FolderCall) :
    call.writeFolder lower db ≠ .writing := by
  unfold FolderCall.writeFolder
  split
  · split <;> exact nofun
  · exact nofun

lemma call_cases (h : call.step box lower db = some (call', db')) :
    ∃ phase, call' = { call with phase := phase } ∧ StepCase box lower db call phase db' := by
  unfold FolderCall.step at h
  split at h
  · cases h
    exact ⟨_, rfl, .checking _ fun hw => absurd hw (requireServer_ne db call)⟩
  · cases h
    exact ⟨_, rfl, .checking _ ownedFolder_writing⟩
  · next hphase =>
    cases h
    exact ⟨_, rfl, .writing _ hphase (writeFolder_ne lower db call)⟩
  all_goals cases h

/-- The write of a request concerns the rows with its id alone, and gives no id that is free. -/
structure Confined (folderId : Nat) (old new : Store) : Prop where
  ids : new.folderIds ⊆ old.folderIds
  gone : ∀ row ∈ old.folders, row ∉ new.folders → row.id = folderId

lemma confined_replaceFolder {store : Store} {folder new : FolderRow} {folderId : Nat}
    (hf : store.getFolder folderId = some folder) (hid : new.id = folder.id) :
    Confined folderId store (store.replaceFolder new) := by
  refine ⟨fun id hmem => ?_, fun row hr hgone => ?_⟩
  · obtain ⟨row, hrow, rfl⟩ := List.mem_map.1 hmem
    obtain ⟨old, hold, rfl⟩ := List.mem_map.1 hrow
    split
    · rw [hid]
      exact List.mem_map_of_mem (List.mem_of_find?_eq_some hf)
    · exact List.mem_map_of_mem hold
  · rw [← Store.getFolder_id hf, ← hid]
    by_contra hne
    apply hgone
    exact List.mem_map.2 ⟨row, hr, if_neg hne⟩

lemma confined_write (box : SecretBox) (lower : Str → Str) (db : Database) (call : FolderCall) :
    Confined call.folderId db.toStore (db.write box lower call.write).toStore := by
  obtain ⟨serverId, folderId, op, phase⟩ := call
  cases op with
  | patch data =>
    show Confined folderId db.toStore (db.after (db.updateFolder lower folderId data))
    cases hf : db.getFolder folderId with
    | none =>
      rw [Store.updateFolder, hf]
      exact ⟨List.Subset.refl _, fun row hr hgone => absurd hr hgone⟩
    | some folder =>
      rw [Store.updateFolder, hf]
      exact confined_replaceFolder hf rfl
  | delete =>
    refine ⟨(List.filter_sublist.map _).subset, fun row hr hgone => ?_⟩
    by_contra hne
    exact hgone (List.mem_filter.2 ⟨hr, decide_eq_true hne⟩)

/-- The folder that a request is about to write belongs to its server, if it is there. -/
def Owned (db : Database) (call : FolderCall) : Prop :=
  call.phase = .writing → ∀ folder ∈ db.getFolder call.folderId, folder.serverId = call.serverId

lemma getFolder_mem {store : Store} {folderId : Nat} (h : row ∈ store.getFolder folderId) :
    row ∈ store.folders ∧ row.id = folderId :=
  ⟨List.mem_of_find?_eq_some h, Store.getFolder_id h⟩

lemma getFolder_of_mem (hr : row ∈ db.folders) : db.getFolder row.id = some row := by
  cases hf : db.getFolder row.id with
  | none =>
    exact absurd rfl (of_decide_eq_false (eq_false_of_ne_true (List.find?_eq_none.1 hf row hr)))
  | some other =>
    obtain ⟨ho, hid⟩ := getFolder_mem hf
    rw [List.inj_on_of_nodup_map db.keyed.folders ho hr hid]

/-- An id that stays in use keeps its server; one that is taken is spared. -/
lemma Owned.write (h : Owned db call) {w : RepoWrite}
    (hsp : Spared db (db.write box lower w) call) : Owned (db.write box lower w) call := by
  intro hphase new hnew
  cases hold : db.getFolder call.folderId with
  | none => exact hsp hphase hold new hnew
  | some old =>
    obtain ⟨hn, hnid⟩ := getFolder_mem hnew
    obtain ⟨ho, hoid⟩ := getFolder_mem hold
    rw [db.keyed.ownersKept_write box lower w new hn old ho (hnid.trans hoid.symm)]
    exact h hphase old hold

/-- A request spares the others. -/
lemma spared_write (box : SecretBox) (lower : Str → Str) (db : Database) (call other : FolderCall) :
    Spared db (db.write box lower call.write) other := by
  intro _ hfree new hnew
  obtain ⟨hn, hid⟩ := getFolder_mem hnew
  have hused := (confined_write box lower db call).ids (List.mem_map_of_mem hn)
  obtain ⟨old, hold, hoid⟩ := List.mem_map.1 hused
  have hf := getFolder_of_mem hold
  rw [hoid, hid, hfree] at hf
  cases hf

/-- The invariant: what the check has found is still so. -/
def Checked (s : FolderRequests) : Prop :=
  ∀ call ∈ s.calls, Owned s.db call

/-- A request arrives, one goes on, or another write is committed. -/
lemma step_cases (hs : step box lower s a = some t) :
    (∃ serverId folderId op, t = { s with
        calls := s.calls ++ [⟨serverId, folderId, op, .requireServer⟩] }) ∨
      (∃ i call phase db, a = .proceed i ∧ s.calls[i]? = some call ∧
        StepCase box lower s.db call phase db ∧
        t = ⟨db, s.calls.set i { call with phase := phase }⟩) ∨
      ∃ w, a = .write w ∧ t = { s with db := s.db.write box lower w } := by
  cases a with
  | request serverId folderId op =>
    cases hs
    exact .inl ⟨serverId, folderId, op, rfl⟩
  | proceed i =>
    obtain ⟨call, hi, hs⟩ := Option.bind_eq_some_iff.1 hs
    obtain ⟨⟨call', db⟩, hc, hs⟩ := Option.bind_eq_some_iff.1 hs
    cases hs
    obtain ⟨phase, rfl, hcase⟩ := call_cases hc
    exact .inr (.inl ⟨i, call, phase, db, rfl, hi, hcase, rfl⟩)
  | write w =>
    cases hs
    exact .inr (.inr ⟨w, rfl, rfl⟩)

lemma Checked.step (h : Checked s) (hg : Spares box lower s a) (hs : step box lower s a = some t) :
    Checked t := by
  rcases step_cases hs with ⟨serverId, folderId, op, rfl⟩ | ⟨i, call, phase, db, rfl, hi, hc, rfl⟩ |
    ⟨w, rfl, rfl⟩
  · intro call hcall
    rcases List.mem_append.1 hcall with hcall | hcall
    · exact h call hcall
    · cases List.mem_singleton.1 hcall
      exact nofun
  · intro other ho
    cases hc with
    | checking hfound =>
      rcases List.mem_or_eq_of_mem_set ho with ho | rfl
      · exact h other ho
      · exact hfound
    | writing _ hphase =>
      rcases List.mem_or_eq_of_mem_set ho with ho | rfl
      · exact (h other ho).write (spared_write box lower s.db call other)
      · exact fun hw => absurd hw hphase
  · exact fun call hcall => (h call hcall).write (hg call hcall)

/-- While no id on which a request is about to act is given to a folder of another server, every row
that a request changes or deletes is one of its own server. -/
theorem own_folders (h : Reach (step box lower) (Spares box lower) ⟨db, []⟩ s) {i : Nat}
    (hi : s.calls[i]? = some call) (hs : step box lower s (.proceed i) = some t) :
    ∀ row ∈ s.db.folders, row ∉ t.db.folders → row.serverId = call.serverId := by
  have hinit : Checked ⟨db, []⟩ := fun _ hc => (by cases hc)
  have hchecked : Checked s := h.invariant hinit fun hu hg hs => hu.step hg hs
  intro row hr hgone
  rcases step_cases hs with ⟨serverId, folderId, op, rfl⟩ | ⟨j, other, phase, db', he, hj, hc, rfl⟩ |
    ⟨w, hw, -⟩
  · exact absurd hr hgone
  · cases he
    rw [hi] at hj
    cases hj
    cases hc with
    | checking => exact absurd hr hgone
    | writing hphase _ =>
      have hid := (confined_write box lower s.db call).gone row hr hgone
      have hf := getFolder_of_mem hr
      rw [hid] at hf
      exact hchecked call (List.mem_of_getElem? hi) hphase row hf
  · cases hw

/-- Two servers; the first has a folder. -/
def twoServers : List RepoWrite :=
  [.createServer [] { name := "plex".toList, type := .plex, name_not_blank := plex_not_blank },
    .createServer [] { name := "emby".toList, type := .emby, name_not_blank := emby_not_blank },
    .createFolder 1 { path := "/tv".toList, absolute := tv_absolute }]

/-- A folder for films. -/
def films : FolderCreate :=
  { path := "/films".toList, absolute := rfl }

/-- Between the checks of a request and its write the first server is saved with another folder, which
gets the id, and the second one gets a folder of its own. -/
theorem own_folders_saved : ∃ s,
    run (guarded (step .clear lowerAscii) (Spares .clear lowerAscii)) ⟨emptyDatabase, []⟩
        (twoServers.map .write ++ [.request 1 1 .delete, .proceed 0, .proceed 0,
          .write (.deleteFolder 1), .write (.createFolder 1 films),
          .write (.createFolder 2 films)]) = some s ∧
      ∃ t, step .clear lowerAscii s (.proceed 0) = some t ∧
        ∃ row ∈ s.db.folders, row ∉ t.db.folders ∧ row.path = films.path ∧ row.serverId = 1 := by
  have hrun : run (guarded (step .clear lowerAscii) (Spares .clear lowerAscii)) ⟨emptyDatabase, []⟩
      (twoServers.map .write ++ [.request 1 1 .delete, .proceed 0, .proceed 0,
        .write (.deleteFolder 1), .write (.createFolder 1 films),
        .write (.createFolder 2 films)]) = some _ := rfl
  refine ⟨_, hrun, _, rfl, _, List.mem_cons_self, by decide, rfl, ?_⟩
  exact own_folders (Reach.of_run hrun) (i := 0) rfl rfl _ List.mem_cons_self (by decide)

/-- The save of the first server leaves it no folder, the next folder of the second server gets the
id, and the request deletes it. -/
theorem foreign_folder_deleted :
    ¬∀ (box : SecretBox) (lower : Str → Str) (acts : List Act) (s t : FolderRequests) (i : Nat)
      (call : FolderCall), run (step box lower) ⟨emptyDatabase, []⟩ acts = some s →
        s.calls[i]? = some call → step box lower s (.proceed i) = some t →
        ∀ row ∈ s.db.folders, row ∉ t.db.folders → row.serverId = call.serverId := by
  intro h
  have hrun : run (step .clear lowerAscii) ⟨emptyDatabase, []⟩
      (twoServers.map .write ++ [.request 1 1 .delete, .proceed 0, .proceed 0,
        .write (.updateServerWithFolders [] 1 { name_not_blank := fun _ h => (by cases h) } []),
        .write (.createFolder 2 films)]) = some _ := rfl
  have hserver := h _ _ _ _ _ 0 _ hrun rfl rfl _ List.mem_cons_self (by decide)
  revert hserver
  decide

end FolderRequests
end MediaScanMonitor
