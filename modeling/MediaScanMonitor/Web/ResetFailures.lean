import MediaScanMonitor.Web.Lockout

/-!
# Failures of a reset

`reset_to_generated_password` when a call that it makes raises. The file, the flag and the hash are
written one after the other, and the file is emptied before its new text is written.
-/

namespace MediaScanMonitor
open Text

/-- The characters of a base64 text that is safe in a URL. -/
def isUrlSafe (c : Char) : Bool :=
  c.isAlphanum || c = '-' || c = '_'

/-- What `generate_password` returns: 18 random bytes in base64. -/
structure Token where
  text : Str
  length : text.length = 24
  safe : ∀ c ∈ text, isUrlSafe c = true
deriving DecidableEq

/-- The calls of a reset that raise. -/
inductive FailurePoint
  /-- The directory cannot be created. -/
  | mkdir
  /-- The file cannot be opened; it is not truncated. -/
  | opening
  /-- The text cannot be written or the file not be closed; so many characters are written. -/
  | writing (written : Nat)
  | chmod
  /-- The flag cannot be stored. -/
  | mustChange
  /-- The hash cannot be computed or stored. -/
  | hash
deriving DecidableEq

/-- The `OSError`s. -/
def FailurePoint.isOSError : FailurePoint → Bool
  | .mkdir => true
  | .opening => true
  | .writing _ => true
  | .chmod => true
  | .mustChange => false
  | .hash => false

/-- What runs with the credentials at hand until a call raises. -/
abbrev ResetM := ExceptT FailurePoint (StateM Credentials)

namespace ResetM

/-- A call that has its effect or raises. -/
def attempt (failure : Option FailurePoint) (point : FailurePoint)
    (effect : Credentials → Credentials) : ResetM Unit :=
  if failure = some point then throw point else modify effect

/-- `os.open` with `O_TRUNC`. -/
def truncateFile (c : Credentials) : Credentials :=
  { c with file := some [] }

/-- `handle.write(value + "\n")` and the end of the `with` block. -/
def writeText (failure : Option FailurePoint) (value : Str) : ResetM Unit :=
  match failure with
  | some (.writing written) => do
    modify fun c => { c with file := some ((value ++ ['\n']).take written) }
    throw (.writing written)
  | _ => modify fun c => c.writeFile value

/-- `_write_initial_password_file`. -/
def writeInitialPasswordFile (failure : Option FailurePoint) (value : Str) : ResetM Unit := do
  attempt failure .mkdir id
  attempt failure .opening truncateFile
  writeText failure value
  attempt failure .chmod id

/-- `_generate_and_store`. -/
def generateAndStore (hasher : PasswordHasher) (generated : Token) (salt : Str)
    (failure : Option FailurePoint) : ResetM Unit := do
  writeInitialPasswordFile failure generated.text
  attempt failure .mustChange fun c => c.setMustChange "1".toList
  attempt failure .hash fun c => c.setPassword hasher salt generated.text

/-- `reset_to_generated_password`; what it logs is left out. -/
def resetToGeneratedPassword (hasher : PasswordHasher) (generated : Token) (salt : Str)
    (failure : Option FailurePoint) : ResetM Unit :=
  generateAndStore hasher generated salt failure

/-- What `reset_password` answers after a reset. -/
inductive Answer
  | redirect (url : Str)
  /-- The page again, with a message. -/
  | page (status : Nat) (error : Str)
deriving DecidableEq

/-- The end of `reset_password`; what is no `OSError` goes on. -/
def answer : Except FailurePoint Unit → Except FailurePoint Answer
  | .ok _ => .ok (.redirect "/login?reset=1".toList)
  | .error failure =>
    if failure.isOSError then .ok (.page 500
      "Could not write the new password file; the current password is unchanged.".toList)
    else .error failure

/-- What a reset leaves that fails. -/
def left (generated : Token) (c : Credentials) : FailurePoint → Credentials
  | .mkdir => c
  | .opening => c
  | .writing written => { c with file := some ((generated.text ++ ['\n']).take written) }
  | .chmod => c.writeFile generated.text
  | .mustChange => c.writeFile generated.text
  | .hash => (c.writeFile generated.text).setMustChange "1".toList

variable {hasher : PasswordHasher} {generated password : Token} {salt : Str} {c : Credentials}
  {failure : FailurePoint}

lemma reset_error (hasher : PasswordHasher) (generated : Token) (salt : Str) (c : Credentials)
    (failure : FailurePoint) :
    (resetToGeneratedPassword hasher generated salt (some failure)).run.run c =
      (.error failure, left generated c failure) := by
  cases failure <;> rfl

/-- A generated password works that is in the file. -/
def Held (hasher : PasswordHasher) (c : Credentials) (password : Token) : Prop :=
  c.file = some (password.text ++ ['\n']) ∧ c.checkPassword hasher password.text = true

/-- The file contains a password. -/
def InFile (c : Credentials) (password : Token) : Prop :=
  ∃ text, c.file = some text ∧ password.text <:+: text

/-- The hash and the flag are the same, and the file still contains the generated password that
works. -/
structure NothingLost (hasher : PasswordHasher) (c c' : Credentials) : Prop where
  hash : c'.db.getSetting PASSWORD_HASH_KEY = c.db.getSetting PASSWORD_HASH_KEY
  flag : c'.isMustChange = c.isMustChange
  held : ∀ password, Held hasher c password → InFile c' password

/-- The file is not truncated yet, or the password that works is not in it, unless the same one is
generated again; and the hash comes after the flag only if that was set. -/
def Harmless (hasher : PasswordHasher) (c : Credentials) (generated : Token) : FailurePoint → Prop
  | .mkdir => True
  | .opening => True
  | .writing written => ∀ password, Held hasher c password → password = generated ∧ 24 ≤ written
  | .chmod => ∀ password, Held hasher c password → password = generated
  | .mustChange => ∀ password, Held hasher c password → password = generated
  | .hash => c.isMustChange = true ∧ ∀ password, Held hasher c password → password = generated

/-- All generated passwords have one length and no line end: a part of a text contains one only when
the text is its own. -/
lemma infix_take {n : Nat} :
    password.text <:+: (generated.text ++ ['\n']).take n ↔ password = generated ∧ 24 ≤ n := by
  constructor
  · intro h
    have hlen := h.length_le
    rw [List.length_take, password.length] at hlen
    have hinfix := h.trans (List.take_prefix n _).isInfix
    rcases List.infix_concat_iff.1 hinfix with hsuffix | hinfix
    · rcases List.suffix_concat_iff.1 hsuffix with hnil | ⟨front, hfront, -⟩
      · have hlen := password.length
        rw [hnil] at hlen
        cases hlen
      · have hline : '\n' ∈ password.text := by
          rw [hfront]
          exact List.mem_append_right _ (List.mem_singleton_self _)
        have hsafe : isUrlSafe '\n' = false := by decide
        rw [password.safe _ hline] at hsafe
        cases hsafe
    · have htext := hinfix.eq_of_length (password.length.trans generated.length.symm)
      cases password
      cases generated
      cases htext
      exact ⟨rfl, le_trans hlen (Nat.min_le_left _ _)⟩
  · rintro ⟨rfl, hn⟩
    rw [← password.length] at hn
    have hprefix := List.prefix_take_iff.2 ⟨List.prefix_append password.text ['\n'], hn⟩
    exact hprefix.isInfix

lemma left_hash (generated : Token) (c : Credentials) (failure : FailurePoint) :
    (left generated c failure).db.getSetting PASSWORD_HASH_KEY =
      c.db.getSetting PASSWORD_HASH_KEY := by
  cases failure with
  | hash => exact Db.getSetting_setSetting (by decide) _ _
  | _ => rfl

lemma left_flag : (left generated c failure).isMustChange = c.isMustChange ↔
    (failure = .hash → c.isMustChange = true) := by
  by_cases hf : failure = .hash
  · subst hf
    have hset : (left generated c .hash).isMustChange = true := Credentials.isMustChange_setMustChange
    rw [hset]
    exact ⟨fun h _ => h.symm, fun h => (h rfl).symm⟩
  · have hsame : (left generated c failure).isMustChange = c.isMustChange := by
      cases failure with
      | hash => exact absurd rfl hf
      | _ => rfl
    exact ⟨fun _ h => absurd h hf, fun _ => hsame⟩

/-- The text of the file after it is truncated. -/
lemma inFile_truncated {c' : Credentials} {n : Nat}
    (hfile : c'.file = some ((generated.text ++ ['\n']).take n)) :
    InFile c' password ↔ password = generated ∧ 24 ≤ n := by
  rw [← infix_take]
  constructor
  · rintro ⟨text, ht, hinfix⟩
    cases hfile.symm.trans ht
    exact hinfix
  · exact fun hinfix => ⟨_, hfile, hinfix⟩

/-- The whole text is written. -/
lemma inFile_written {c' : Credentials} (hfile : c'.file = some (generated.text ++ ['\n'])) :
    InFile c' password ↔ password = generated := by
  have hlen : (generated.text ++ ['\n']).length = 25 := by
    rw [List.length_append, generated.length]
    rfl
  rw [← List.take_length (l := generated.text ++ ['\n']), hlen] at hfile
  exact (inFile_truncated hfile).trans (and_iff_left (by decide))

lemma nothingLost_iff : NothingLost hasher c (left generated c failure) ↔
    (failure = .hash → c.isMustChange = true) ∧
      ∀ password, Held hasher c password → InFile (left generated c failure) password := by
  constructor
  · exact fun h => ⟨left_flag.1 h.flag, h.held⟩
  · exact fun h => ⟨left_hash generated c failure, left_flag.2 h.1, h.2⟩

/-- While the file is not truncated, it holds what it held. -/
lemma inFile_of_held (h : Held hasher c password) : InFile c password :=
  ⟨_, h.1, (List.prefix_append _ _).isInfix⟩

/-- A reset that fails loses nothing exactly when it fails before the file is truncated, or else the
password that works is not in the file or is generated again, and, if it is the hash that is not
stored, the flag was set before. -/
theorem failed_reset_iff (hasher : PasswordHasher) (generated : Token) (salt : Str)
    (c : Credentials) (failure : FailurePoint) :
    ∃ c', (resetToGeneratedPassword hasher generated salt (some failure)).run.run c =
        (.error failure, c') ∧
      (NothingLost hasher c c' ↔ Harmless hasher c generated failure) := by
  refine ⟨_, reset_error hasher generated salt c failure, ?_⟩
  rw [nothingLost_iff]
  cases failure with
  | mkdir => exact iff_of_true ⟨nofun, fun _ => inFile_of_held⟩ trivial
  | opening => exact iff_of_true ⟨nofun, fun _ => inFile_of_held⟩ trivial
  | writing written =>
    rw [and_iff_right (by exact nofun)]
    exact forall₂_congr fun password _ => inFile_truncated rfl
  | chmod =>
    rw [and_iff_right (by exact nofun)]
    exact forall₂_congr fun password _ => inFile_written rfl
  | mustChange =>
    rw [and_iff_right (by exact nofun)]
    exact forall₂_congr fun password _ => inFile_written rfl
  | hash =>
    refine and_congr ⟨fun h => h rfl, fun h _ => h⟩ ?_
    exact forall₂_congr fun password _ => inFile_written rfl

/-- When the page says that the password is unchanged, the hash and the flag are. -/
lemma unchanged_of_page {error : FailurePoint} {status : Nat} {text : Str}
    (h : answer (.error error) = .ok (.page status text)) :
    (left generated c error).db = c.db := by
  cases error with
  | mustChange => cases h
  | hash => cases h
  | _ => rfl

/-- A password of `A`s. -/
def initialToken : Token :=
  ⟨List.replicate 24 'A', rfl, fun _ hc => List.eq_of_mem_replicate hc ▸ rfl⟩

/-- A password of `B`s. -/
def nextToken : Token :=
  ⟨List.replicate 24 'B', rfl, fun _ hc => List.eq_of_mem_replicate hc ▸ rfl⟩

/-- The disk is full when the generated password of the bootstrap is replaced. -/
theorem failed_reset_loses :
    ¬∀ (hasher : PasswordHasher) (generated : Token) (salt : Str) (c c' : Credentials)
      (failure : FailurePoint),
      (resetToGeneratedPassword hasher generated salt (some failure)).run.run c =
        (.error failure, c') → NothingLost hasher c c' := by
  intro h
  have hlost := h Web.plain nextToken []
    (bootstrapPassword Web.plain Web.unsupplied initialToken.text [] Web.fresh) _ (.writing 0) rfl
  obtain ⟨text, ht, hinfix⟩ := hlost.held initialToken ⟨rfl, by decide⟩
  cases ht
  revert hinfix
  decide

end ResetM
end MediaScanMonitor
