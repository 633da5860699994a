import MediaScanMonitor.Lib.PosixPath

/-!
# Event filters

`pipeline/filters.py`.
-/

namespace MediaScanMonitor
open Text PosixPath

/-- `is_ignored`. -/
def isIgnored (path : Str) (ignoreDirs : List Str) : Bool :=
  if ignoreDirs = [] then false else (split path).any fun segment => segment ∈ ignoreDirs

/-- `extension_matches`, for a given `str.lower`. -/
def extensionMatches (lower : Str → Str) (path : Str) (extensions : List Str) : Bool :=
  if extensions = [] then true
  else
    let name := (split path).getLastD []
    let (base, dot, ext) := rpartition name '.'
    if dot = [] ∨ base = [] then false else lower ext ∈ extensions

/-- Without ignored names nothing is ignored. -/
lemma isIgnored_eq (path : Str) (ignoreDirs : List Str) :
    isIgnored path ignoreDirs = (split path).any fun segment => segment ∈ ignoreDirs := by
  unfold isIgnored
  split
  · next h => simp [h]
  · rfl

end MediaScanMonitor
