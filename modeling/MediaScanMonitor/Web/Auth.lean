import MediaScanMonitor.Db.Models
import MediaScanMonitor.Lib.Transition

/-!
# Authentication

`web/auth.py`: the hash of the password and the must-change flag are settings, the initial password
is a file. A reset and a change write them one after the other, in worker threads and without a
lock, so that the writes of any number of requests interleave. Each write is one step here, and so
is each read with the checks that follow it on the event loop.
-/

namespace MediaScanMonitor
open Text Transition

/-- Argon2: a password verifies against its hashes, whatever their salt. -/
structure PasswordHasher where
  hash (salt password : Str) : Str
  verify (storedHash password : Str) : Bool
  verify_hash : ∀ salt password, verify (hash salt password) password = true

/-- `PASSWORD_HASH_KEY`. -/
def PASSWORD_HASH_KEY : Str := "password_hash".toList

/-- `MUST_CHANGE_KEY`. -/
def MUST_CHANGE_KEY : Str := "must_change_password".toList

/-- The database, and the text of the initial-password file. -/
structure Credentials where
  db : Db
  file : Option Str

namespace Credentials

/-- `is_password_set`. -/
def isPasswordSet (c : Credentials) : Bool :=
  (c.db.getSetting PASSWORD_HASH_KEY).isSome

/-- `set_password`. -/
def setPassword (hasher : PasswordHasher) (salt password : Str) (c : Credentials) : Credentials :=
  { c with db := c.db.setSetting PASSWORD_HASH_KEY (hasher.hash salt password) }

/-- `check_password`. -/
def checkPassword (hasher : PasswordHasher) (c : Credentials) (password : Str) : Bool :=
  match c.db.getSetting PASSWORD_HASH_KEY with
  | none => false
  | some stored => hasher.verify stored password

/-- `is_must_change`. -/
def isMustChange (c : Credentials) : Bool :=
  c.db.getSetting MUST_CHANGE_KEY = some "1".toList

/-- `repo.set_setting(MUST_CHANGE_KEY, value)`. -/
def setMustChange (value : Str) (c : Credentials) : Credentials :=
  { c with db := c.db.setSetting MUST_CHANGE_KEY value }

/-- `_write_initial_password_file`. -/
def writeFile (value : Str) (c : Credentials) : Credentials :=
  { c with file := some (value ++ ['\n']) }

/-- `path.unlink()`; a missing file is no error. -/
def unlinkFile (c : Credentials) : Credentials :=
  { c with file := none }

/-- `_generate_and_store`, when nothing interferes. -/
def generateAndStore (hasher : PasswordHasher) (generated salt : Str) (c : Credentials) :
    Credentials :=
  ((c.writeFile generated).setMustChange "1".toList).setPassword hasher salt generated

end Credentials

/-- What `bootstrap_password` reads of the environment. -/
structure Environment where
  /-- The text of the file that `MSM_PASSWORD_FILE` names, when there is one to read. -/
  passwordFile : Option Str
  /-- `MSM_PASSWORD`. -/
  password : Option Str

/-- The password that is supplied; it is empty when there is none. -/
def Environment.value (env : Environment) : Str :=
  let value := strip (env.passwordFile.getD [])
  if value = [] then strip (env.password.getD []) else value

/-- `bootstrap_password`. -/
def bootstrapPassword (hasher : PasswordHasher) (env : Environment) (generated salt : Str)
    (c : Credentials) : Credentials :=
  if c.isPasswordSet then c
  else if env.value = [] then c.generateAndStore hasher generated salt
  else c.setPassword hasher salt env.value

/-- What a request is answered with. -/
inductive Reply
  | redirect (url : Str)
  /-- The form again, with a message. -/
  | rejected (error : Str) (mustChange : Bool)
deriving DecidableEq

/-- Where a `POST /auth/reset-password` is in `_generate_and_store`. -/
inductive Reset
  /-- It is about to write the file. -/
  | writing (generated salt : Str)
  /-- It is about to set the flag. -/
  | flagging (generated salt : Str)
  /-- It is about to store the hash. -/
  | storing (generated salt : Str)
  | returned (reply : Reply)
deriving DecidableEq

namespace Reset

/-- `reset_password` up to its next step. -/
def step (hasher : PasswordHasher) (c : Credentials) : Reset → Option (Reset × Credentials)
  | .writing generated salt => some (.flagging generated salt, c.writeFile generated)
  | .flagging generated salt => some (.storing generated salt, c.setMustChange "1".toList)
  | .storing generated salt =>
    some (.returned (.redirect "/login?reset=1".toList), c.setPassword hasher salt generated)
  | .returned _ => none

/-- The hash is still to be stored. -/
def inFlight : Reset → Bool
  | .returned _ => false
  | _ => true

end Reset

/-- The form of `POST /account/password`. -/
structure ChangeForm where
  currentPassword : Str
  newPassword : Str
  confirmPassword : Str
deriving DecidableEq

/-- Where a `POST /account/password` is. -/
inductive Change
  /-- It is about to read the flag. -/
  | reading (form : ChangeForm) (salt : Str)
  /-- It is about to check the current password. -/
  | checking (form : ChangeForm) (salt : Str) (mustChange : Bool)
  /-- It is about to store the hash. -/
  | storing (form : ChangeForm) (salt : Str)
  /-- The hash is stored, the flag is about to be cleared. -/
  | clearing (form : ChangeForm)
  /-- The file is about to be removed. -/
  | unlinking (form : ChangeForm)
  | changed (form : ChangeForm) (reply : Reply)
  | refused (reply : Reply)
deriving DecidableEq

namespace Change

/-- The checks of a form, given whether its current password is right. -/
def error (form : ChangeForm) (correct : Bool) : Option Str :=
  if !correct then some "Current password is incorrect.".toList
  else if strip form.newPassword = [] then some "New password must not be empty.".toList
  else if form.newPassword ≠ form.confirmPassword then
    some "New password and confirmation do not match.".toList
  else none

/-- `change_password` up to its next step. -/
def step (hasher : PasswordHasher) (c : Credentials) : Change → Option (Change × Credentials)
  | .reading form salt => some (.checking form salt c.isMustChange, c)
  | .checking form salt mustChange =>
    match error form (c.checkPassword hasher form.currentPassword) with
    | some message => some (.refused (.rejected message mustChange), c)
    | none => some (.storing form salt, c)
  | .storing form salt => some (.clearing form, c.setPassword hasher salt form.newPassword)
  | .clearing form => some (.unlinking form, c.setMustChange "0".toList)
  | .unlinking form => some (.changed form (.redirect "/".toList), c.unlinkFile)
  | .changed _ _ => none
  | .refused _ => none

/-- The checks are passed, the hash is still to be stored. -/
def isStoring : Change → Bool
  | .storing _ _ => true
  | _ => false

/-- The hash is stored, the flag or the file is still to be cleared. -/
def isClearing : Change → Bool
  | .clearing _ => true
  | .unlinking _ => true
  | _ => false

/-- The password that the request has stored. -/
def stored : Change → Option Str
  | .clearing form => some form.newPassword
  | .unlinking form => some form.newPassword
  | .changed form _ => some form.newPassword
  | _ => none

/-- Nothing of the request is left to do. -/
def isDone : Change → Bool
  | .changed _ _ => true
  | .refused _ => true
  | _ => false

lemma isStoring_of_isDone {x : Change} (h : x.isDone = true) : x.isStoring = false := by
  cases x <;> first | rfl | cases h

end Change

structure Web where
  credentials : Credentials
  resets : List Reset
  changes : List Change

namespace Web

/-- The web application after its bootstrap. -/
def boot (hasher : PasswordHasher) (env : Environment) (generated salt : Str) (c : Credentials) :
    Web :=
  ⟨bootstrapPassword hasher env generated salt c, [], []⟩

inductive Act
  /-- A reset arrives; what is random about it is chosen here. -/
  | reset (generated salt : Str)
  | change (form : ChangeForm) (salt : Str)
  | resetStep (i : Nat)
  | changeStep (i : Nat)

def step (hasher : PasswordHasher) (w : Web) : Act → Option Web
  | .reset generated salt => some { w with resets := w.resets ++ [.writing generated salt] }
  | .change form salt => some { w with changes := w.changes ++ [.reading form salt] }
  | .resetStep i => do
    let (r, c) ← (← w.resets[i]?).step hasher w.credentials
    pure { w with credentials := c, resets := w.resets.set i r }
  | .changeStep i => do
    let (x, c) ← (← w.changes[i]?).step hasher w.credentials
    pure { w with credentials := c, changes := w.changes.set i x }

/-- No request is in progress. -/
def Quiescent (w : Web) : Prop :=
  (∀ r ∈ w.resets, ¬ r.inFlight) ∧ ∀ x ∈ w.changes, x.isDone

end Web
end MediaScanMonitor
