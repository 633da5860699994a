import MediaScanMonitor.Web.Writes

/-!
# The two update cores

The errors of `apply_server_update` and of its twin that also replaces the folders, each run from
its first transaction to its end with no other request between its transactions.
-/

namespace MediaScanMonitor
open Text
namespace ServerWrite

/-- The next transaction, if there is one. -/
def next (box : SecretBox) (repr : Str → Str) (nonce : Str) (p : ServerWrite × Store) :
    ServerWrite × Store :=
  (p.1.step box repr nonce p.2).getD p

/-- An update core as far as it goes: it reads the row, then writes it. -/
def complete (box : SecretBox) (repr : Str → Str) (nonce : Str) (store : Store)
    (write : ServerWrite) : ServerWrite × Store :=
  next box repr nonce (next box repr nonce (write, store))

variable {box : SecretBox} {repr : Str → Str} {nonce : Str} {store : Store} {serverId : Nat}
  {data : ServerUpdate} {folders : List FolderCreate} {existing : ServerRow} {error : WriteError}

/-- The check is passed: what is left is the write. -/
lemma complete_checked (h : store.getServer serverId = some existing)
    (hc : requireUpdateSecret repr data existing = .ok ())
    (folders : Option (List FolderCreate)) :
    complete box repr nonce store (.reading serverId data folders) =
      next box repr nonce (.updating serverId data folders existing, store) := by
  rw [complete]
  apply congrArg
  rw [next, step, h]
  dsimp only
  rw [hc]
  rfl

/-- The row that is written keeps its id, and has the name that the update asks for. -/
lemma replaceServer_written (t : Store) (h : store.getServer serverId = some existing)
    (ht : t.servers = store.servers) :
    t.replaceServer (Store.written box nonce data existing) =
      if store.nameTaken serverId (data.name.getD existing.name) = true then
        .error .integrityError
      else .ok (Store.written box nonce data existing, { t with
        servers := t.servers.map fun old =>
          if old.id = (Store.written box nonce data existing).id then
            Store.written box nonce data existing
          else old }) := by
  obtain ⟨hid, hname, -⟩ := Store.written_fields box nonce data existing
  have htaken : t.nameTaken (Store.written box nonce data existing).id
      (Store.written box nonce data existing).name =
        store.nameTaken serverId (data.name.getD existing.name) := by
    rw [hid, hname, Store.getServer_id h, Store.nameTaken, Store.nameTaken, ht]
  rw [Store.replaceServer, htaken]

/-- The twin translates it. -/
lemma complete_taken_with_folders (h : store.getServer serverId = some existing)
    (hc : requireUpdateSecret repr data existing = .ok ())
    (htaken : store.nameTaken serverId (data.name.getD existing.name) = true) :
    complete box repr nonce store (.applyServerUpdateWithFolders serverId data folders) =
      (.failed (nameConflict repr (data.name.getD existing.name)), store) := by
  rw [applyServerUpdateWithFolders, complete_checked h hc, next, step,
    Store.updateServerWithFolders_eq, h]
  dsimp only
  rw [replaceServer_written (store.setServerFolders serverId folders) h rfl, if_pos htaken]
  rfl

end ServerWrite
end MediaScanMonitor
