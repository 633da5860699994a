import MediaScanMonitor.Web.Auth

/-!
# Lockout

Which interleavings of resets and changes leave a password that works. After the last hash is stored
nothing is written but what changes clear, so a reset may be the last to store only when its password
is still in the file, the flag is set and no change is clearing (`Settled`).
-/

namespace MediaScanMonitor
open Text Transition

variable {hasher : PasswordHasher} {c : Credentials}

namespace Credentials

lemma checkPassword_setPassword (salt password : Str) :
    (c.setPassword hasher salt password).checkPassword hasher password = true := by
  unfold checkPassword setPassword
  rw [Db.getSetting_setSetting_self]
  exact hasher.verify_hash salt password

lemma checkPassword_setMustChange (value password : Str) :
    (c.setMustChange value).checkPassword hasher password = c.checkPassword hasher password := by
  unfold checkPassword setMustChange
  rw [Db.getSetting_setSetting (by decide)]

lemma isMustChange_setPassword (salt password : Str) :
    (c.setPassword hasher salt password).isMustChange = c.isMustChange := by
  unfold isMustChange setPassword
  rw [Db.getSetting_setSetting (by decide)]

lemma isMustChange_setMustChange : (c.setMustChange "1".toList).isMustChange = true := by
  unfold isMustChange setMustChange
  rw [Db.getSetting_setSetting_self]
  exact decide_eq_true rfl

/-- The password works that the file holds, and it has to be changed. -/
def InFile (hasher : PasswordHasher) (c : Credentials) : Prop :=
  (∃ password, c.file = some (password ++ ['\n']) ∧ c.checkPassword hasher password = true) ∧
    c.isMustChange = true

/-- A password that is stored while it is in the file and the flag is set. -/
lemma InFile.store {salt password : Str} (hf : c.file = some (password ++ ['\n']))
    (hm : c.isMustChange = true) : InFile hasher (c.setPassword hasher salt password) := by
  constructor
  · exact ⟨password, hf, checkPassword_setPassword salt password⟩
  · rw [isMustChange_setPassword]
    exact hm

end Credentials

namespace Web
open Credentials

variable {known : List Str} {w w' : Web} {a : Act}

/-- A password that a user chose, before the bootstrap or by a change that has stored it. -/
def Chosen (known : List Str) (w : Web) (password : Str) : Prop :=
  password ∈ known ∨ ∃ x ∈ w.changes, x.stored = some password

/-- A password works that a user chose. -/
def Known (hasher : PasswordHasher) (known : List Str) (w : Web) : Prop :=
  ∃ password, Chosen known w password ∧ w.credentials.checkPassword hasher password = true

/-- The admin can sign in. -/
def Recoverable (hasher : PasswordHasher) (known : List Str) (w : Web) : Prop :=
  Known hasher known w ∨ InFile hasher w.credentials

/-- A request is to store a hash yet. -/
def Pending (w : Web) : Prop :=
  (∃ r ∈ w.resets, r.inFlight) ∨ ∃ x ∈ w.changes, x.isStoring

/-- A request other than reset `i` is to store a hash yet. -/
def Overtaken (w : Web) (i : Nat) : Prop :=
  (∃ r ∈ w.resets.eraseIdx i, r.inFlight) ∨ ∃ x ∈ w.changes, x.isStoring

/-- The password is in the file, the flag is set, and no change is clearing. -/
def Posted (w : Web) (generated : Str) : Prop :=
  w.credentials.file = some (generated ++ ['\n']) ∧ w.credentials.isMustChange = true ∧
    ∀ x ∈ w.changes, ¬ x.isClearing

/-- A reset that is the last to store its hash finds what it has written. -/
def Settled (w : Web) : Act → Prop
  | .resetStep i =>
    match w.resets[i]? with
    | some (.storing generated _) => Overtaken w i ∨ Posted w generated
    | _ => True
  | _ => True

instance (w : Web) (a : Act) : Decidable (Settled w a) := by
  unfold Settled Overtaken Posted
  split
  · split <;> infer_instance
  · infer_instance

/-- What a step does. -/
inductive StepCase (hasher : PasswordHasher) (w : Web) : Act → Web → Prop
  | reset (generated salt : Str) :
      StepCase hasher w (.reset generated salt)
        { w with resets := w.resets ++ [.writing generated salt] }
  | change (form : ChangeForm) (salt : Str) :
      StepCase hasher w (.change form salt)
        { w with changes := w.changes ++ [.reading form salt] }
  | resetStep (i : Nat) (r r' : Reset) (c : Credentials) : w.resets[i]? = some r →
      r.step hasher w.credentials = some (r', c) →
      StepCase hasher w (.resetStep i) { w with credentials := c, resets := w.resets.set i r' }
  | changeStep (i : Nat) (x x' : Change) (c : Credentials) : w.changes[i]? = some x →
      x.step hasher w.credentials = some (x', c) →
      StepCase hasher w (.changeStep i) { w with credentials := c, changes := w.changes.set i x' }

lemma step_cases (hs : step hasher w a = some w') : StepCase hasher w a w' := by
  cases a with
  | reset generated salt =>
    cases hs
    exact .reset generated salt
  | change form salt =>
    cases hs
    exact .change form salt
  | resetStep i =>
    obtain ⟨r, hi, hs⟩ := Option.bind_eq_some_iff.1 hs
    obtain ⟨⟨r', c⟩, hr, hs⟩ := Option.bind_eq_some_iff.1 hs
    cases hs
    exact .resetStep i r r' c hi hr
  | changeStep i =>
    obtain ⟨x, hi, hs⟩ := Option.bind_eq_some_iff.1 hs
    obtain ⟨⟨x', c⟩, hx, hs⟩ := Option.bind_eq_some_iff.1 hs
    cases hs
    exact .changeStep i x x' c hi hx

/-- A chosen password works, or a hash is to be stored yet, or the file's password works and will
go on to. -/
def Inv (hasher : PasswordHasher) (known : List Str) (w : Web) : Prop :=
  Known hasher known w ∨ Pending w ∨ InFile hasher w.credentials ∧ ∀ x ∈ w.changes, ¬ x.isClearing

/-- The bootstrap keeps the password that is there, stores the supplied one, or writes one to the
file. -/
lemma inv_boot {env : Environment} (generated salt : Str)
    (hsupplied : env.value ≠ [] → env.value ∈ known)
    (hset : c.isPasswordSet = true → Recoverable hasher known ⟨c, [], []⟩) :
    Inv hasher known (boot hasher env generated salt c) := by
  unfold boot bootstrapPassword
  split
  · next hs =>
    rcases hset hs with hk | hf
    · exact .inl hk
    · exact .inr (.inr ⟨hf, fun _ hx => (by cases hx)⟩)
  · split
    · refine .inr (.inr ⟨?_, fun _ hx => (by cases hx)⟩)
      exact InFile.store rfl isMustChange_setMustChange
    · next hv =>
      exact .inl ⟨env.value, .inl (hsupplied hv), checkPassword_setPassword salt env.value⟩

/-- A reset is in flight until it has stored its hash; the guard is about that step. -/
lemma Inv.resetStep {i : Nat} {r r' : Reset} (hg : Settled w (.resetStep i))
    (hi : w.resets[i]? = some r) (hr : r.step hasher w.credentials = some (r', c)) :
    Inv hasher known { w with credentials := c, resets := w.resets.set i r' } := by
  have hmem : r' ∈ w.resets.set i r' := mem_set_self hi r'
  cases r with
  | writing generated salt =>
    cases hr
    exact .inr (.inl (.inl ⟨_, hmem, rfl⟩))
  | flagging generated salt =>
    cases hr
    exact .inr (.inl (.inl ⟨_, hmem, rfl⟩))
  | storing generated salt =>
    cases hr
    simp only [Settled, hi] at hg
    rcases hg with (⟨r, hmem, hr⟩ | hx) | ⟨hf, hm, hx⟩
    · -- another reset stores later
      obtain ⟨j, hne, hj⟩ := List.mem_eraseIdx_iff_getElem?.1 hmem
      exact .inr (.inl (.inl ⟨r, mem_set_of_ne (Ne.symm hne) hj, hr⟩))
    · exact .inr (.inl (.inr hx))
    · exact .inr (.inr ⟨InFile.store hf hm, hx⟩)
  | returned reply => cases hr

/-- A change moves on without storing a hash. When it clears, its own password is known. -/
lemma Inv.move (h : Inv hasher known w) {i : Nat} {x x' : Change} (hi : w.changes[i]? = some x)
    (hx : x.isStoring = false) (hstored : ∀ p, x.stored = some p → x'.stored = some p)
    (hcheck : ∀ p, c.checkPassword hasher p = w.credentials.checkPassword hasher p)
    (hclear : x.isClearing = true ∨ c = w.credentials ∧ x'.isClearing = false) :
    Inv hasher known { w with credentials := c, changes := w.changes.set i x' } := by
  rcases h with ⟨p, hp, hc⟩ | (hr | hx') | ⟨hf, hno⟩
  · refine .inl ⟨p, ?_, (hcheck p).trans hc⟩
    rcases hp with hp | hp
    · exact .inl hp
    · exact .inr (exists_mem_set hi (hstored p) hp)
  · exact .inr (.inl (.inl hr))
  · refine .inr (.inl (.inr (exists_mem_set hi ?_ hx')))
    intro hs
    rw [hx] at hs
    cases hs
  · rcases hclear with hclear | ⟨rfl, hclear⟩
    · exact (hno x (List.mem_of_getElem? hi) hclear).elim
    · refine .inr (.inr ⟨hf, fun y hy => ?_⟩)
      rcases List.mem_or_eq_of_mem_set hy with hy | rfl
      · exact hno y hy
      · rw [hclear]
        exact Bool.false_ne_true

lemma Inv.changeStep (h : Inv hasher known w) {i : Nat} {x x' : Change}
    (hi : w.changes[i]? = some x) (hx : x.step hasher w.credentials = some (x', c)) :
    Inv hasher known { w with credentials := c, changes := w.changes.set i x' } := by
  have hmem : x' ∈ w.changes.set i x' := mem_set_self hi x'
  cases x with
  | reading form salt =>
    cases hx
    exact h.move hi rfl nofun (fun _ => rfl) (.inr ⟨rfl, rfl⟩)
  | checking form salt mustChange =>
    rw [Change.step] at hx
    split at hx
    · cases hx
      exact h.move hi rfl nofun (fun _ => rfl) (.inr ⟨rfl, rfl⟩)
    · cases hx
      exact .inr (.inl (.inr ⟨_, hmem, rfl⟩))
  | storing form salt =>
    cases hx
    exact .inl ⟨form.newPassword, .inr ⟨_, hmem, rfl⟩, checkPassword_setPassword salt _⟩
  | clearing form =>
    cases hx
    exact h.move hi rfl (fun _ hp => hp) (checkPassword_setMustChange _) (.inl rfl)
  | unlinking form =>
    cases hx
    exact h.move hi rfl (fun _ hp => hp) (fun _ => rfl) (.inl rfl)
  | changed form reply => cases hx
  | refused reply => cases hx

/-- A change that arrives has stored nothing and clears nothing. -/
lemma Inv.change (h : Inv hasher known w) (form : ChangeForm) (salt : Str) :
    Inv hasher known { w with changes := w.changes ++ [.reading form salt] } := by
  rcases h with ⟨p, hp, hc⟩ | (hr | ⟨x, hx, hs⟩) | ⟨hf, hno⟩
  · refine .inl ⟨p, ?_, hc⟩
    rcases hp with hp | ⟨x, hx, hs⟩
    · exact .inl hp
    · exact .inr ⟨x, List.mem_append_left _ hx, hs⟩
  · exact .inr (.inl (.inl hr))
  · exact .inr (.inl (.inr ⟨x, List.mem_append_left _ hx, hs⟩))
  · refine .inr (.inr ⟨hf, fun y hy => ?_⟩)
    rcases List.mem_append.1 hy with hy | hy
    · exact hno y hy
    · rw [List.mem_singleton.1 hy]
      exact Bool.false_ne_true

lemma Inv.step (h : Inv hasher known w) (hg : Settled w a) (hs : Web.step hasher w a = some w') :
    Inv hasher known w' := by
  cases step_cases hs with
  | reset generated salt =>
    have hmem := List.mem_append_right w.resets (List.mem_singleton_self (.writing generated salt))
    exact .inr (.inl (.inl ⟨_, hmem, rfl⟩))
  | change form salt => exact h.change form salt
  | resetStep i r r' c hi hr => exact Inv.resetStep hg hi hr
  | changeStep i x x' c hi hx => exact h.changeStep hi hx

/-- While a reset that is the last to store its hash finds what it has written, the admin can sign
in whenever no request is in progress: with a password that a user chose, or with the one in the
file, which then has to be changed. -/
theorem never_locked_out (hasher : PasswordHasher) (env : Environment) (generated salt : Str)
    (hsupplied : env.value ≠ [] → env.value ∈ known)
    (hset : c.isPasswordSet = true → Recoverable hasher known ⟨c, [], []⟩)
    (h : Reach (Web.step hasher) Settled (boot hasher env generated salt c) w)
    (hq : Quiescent w) : Recoverable hasher known w := by
  have hinv : Inv hasher known w :=
    h.invariant (inv_boot generated salt hsupplied hset) fun hu hg hs => hu.step hg hs
  rcases hinv with hk | (⟨r, hr, hf⟩ | ⟨x, hx, hs⟩) | ⟨hf, -⟩
  · exact .inl hk
  · exact (hq.1 r hr hf).elim
  · rw [Change.isStoring_of_isDone (hq.2 x hx)] at hs
    cases hs
  · exact .inr hf

/-- A hasher that stores the password. -/
def plain : PasswordHasher :=
  ⟨fun _ password => password, fun storedHash password => storedHash = password,
    fun _ _ => decide_eq_true rfl⟩

/-- Nothing is supplied. -/
def unsupplied : Environment := ⟨none, none⟩

/-- An empty database. -/
def fresh : Credentials := ⟨⟨[], [], []⟩, none⟩

/-- The change from the initial password `a` to `n`. -/
def changeForm : ChangeForm := ⟨"a".toList, "n".toList, "n".toList⟩

/-- A change, and two resets that overlap. -/
theorem never_locked_out_overlap :
    ∃ w, run (guarded (step plain) Settled) (boot plain unsupplied "a".toList [] fresh)
        [.change changeForm [], .changeStep 0, .changeStep 0, .changeStep 0, .changeStep 0,
          .changeStep 0, .reset "b".toList [], .reset "c".toList [], .resetStep 0, .resetStep 1,
          .resetStep 0, .resetStep 0, .resetStep 1, .resetStep 1] = some w ∧
      Quiescent w ∧ Recoverable plain [] w := by
  have hrun : ∃ w, run (guarded (step plain) Settled) (boot plain unsupplied "a".toList [] fresh)
      [.change changeForm [], .changeStep 0, .changeStep 0, .changeStep 0, .changeStep 0,
        .changeStep 0, .reset "b".toList [], .reset "c".toList [], .resetStep 0, .resetStep 1,
        .resetStep 0, .resetStep 0, .resetStep 1, .resetStep 1] = some w ∧ Quiescent w :=
    ⟨_, rfl, by decide, by decide⟩
  obtain ⟨w, hrun, hq⟩ := hrun
  have hempty : Environment.value unsupplied = [] := rfl
  have hfresh : Credentials.isPasswordSet fresh = false := rfl
  refine ⟨w, hrun, hq, never_locked_out plain unsupplied _ _ (fun hne => ?_) (fun hset => ?_)
    (Reach.of_run hrun) hq⟩
  · exact (hne hempty).elim
  · rw [hfresh] at hset
    cases hset

/-- A change clears the flag and removes the file between the writes of a reset. -/
theorem locked_out :
    ¬ ∀ (hasher : PasswordHasher) (env : Environment) (generated salt : Str) (known : List Str)
        (c : Credentials) (acts : List Act) (w : Web), (env.value ≠ [] → env.value ∈ known) →
      (c.isPasswordSet = true → Recoverable hasher known ⟨c, [], []⟩) →
      run (step hasher) (boot hasher env generated salt c) acts = some w → Quiescent w →
      Recoverable hasher known w := by
  intro h
  have hrun : run (step plain) (boot plain unsupplied "a".toList [] fresh)
      [.change changeForm [], .changeStep 0, .changeStep 0, .changeStep 0, .reset "b".toList [],
        .resetStep 0, .resetStep 0, .changeStep 0, .changeStep 0, .resetStep 0] = some _ := rfl
  have hempty : Environment.value unsupplied = [] := rfl
  have hfresh : Credentials.isPasswordSet fresh = false := rfl
  rcases h plain unsupplied _ _ [] fresh _ _ (fun hne => (hne hempty).elim)
      (fun hset => (by rw [hfresh] at hset; cases hset)) hrun ⟨by decide, by decide⟩ with
    ⟨p, hp | ⟨x, hx, hs⟩, hc⟩ | ⟨⟨p, hf, -⟩, -⟩
  · cases hp
  · rw [List.mem_singleton.1 hx] at hs
    cases hs
    exact absurd hc (by decide)
  · cases hf

end Web
end MediaScanMonitor
