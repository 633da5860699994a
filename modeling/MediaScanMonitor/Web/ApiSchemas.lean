import Mathlib.Data.Char
import Mathlib.Data.List.Lex
import Mathlib.Data.List.Sort
import MediaScanMonitor.Db.Repo

/-!
# The read models

`FolderRead` of `web/api_schemas.py`: a folder as the API and the templates show it.
-/

namespace MediaScanMonitor
open Text

structure FolderRead where
  id : Nat
  serverId : Nat
  path : Str
  libraryId : Option Str
  libraryName : Option Str
  enabled : Bool
  extensions : List Str
deriving DecidableEq

/-- `FolderRead.from_model`. -/
def FolderRead.fromModel (folder : FolderRow) : FolderRead where
  id := folder.id
  serverId := folder.serverId
  path := folder.path
  libraryId := folder.libraryId
  libraryName := folder.libraryName
  enabled := folder.enabled
  extensions := folder.filetypes.insertionSort (· ≤ ·)

/-- The stored extensions are shown, and no others. -/
lemma mem_fromModel_extensions {folder : FolderRow} {ext : Str} :
    ext ∈ (FolderRead.fromModel folder).extensions ↔ ext ∈ folder.filetypes :=
  List.mem_insertionSort _

end MediaScanMonitor
