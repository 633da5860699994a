import MediaScanMonitor.Web.Lockout

/-!
# Setup

`POST /setup`, which needs no session. The check for a password and the write of one are two calls in
worker threads, and any number of requests may be between the two: the write does not look again.
-/

namespace MediaScanMonitor
open Text Transition

/-- Where a `POST /setup` is. -/
inductive SetupPhase
  /-- It is about to check that no password is set. -/
  | checking
  /-- The checks are passed, the hash is about to be stored. -/
  | storing
  /-- The hash is stored, and the session is signed in. -/
  | signedIn (url : Str)
  /-- A password was set. -/
  | redirected (url : Str)
  /-- The form again, with a message. -/
  | rejected (status : Nat) (error : Str)
deriving DecidableEq

structure SetupCall where
  password : Str
  /-- What is random about the hash. -/
  salt : Str
  phase : SetupPhase
deriving DecidableEq

namespace SetupCall

/-- The checks of `setup`. -/
def check (c : Credentials) (call : SetupCall) : SetupPhase :=
  if c.isPasswordSet then .redirected "/login".toList
  else if strip call.password = [] then .rejected 400 "Password must not be empty.".toList
  else .storing

/-- `setup` up to its next step. -/
def step (hasher : PasswordHasher) (c : Credentials) (call : SetupCall) :
    Option (SetupCall × Credentials) :=
  match call.phase with
  | .checking => some ({ call with phase := call.check c }, c)
  | .storing => some ({ call with phase := .signedIn "/".toList },
      c.setPassword hasher call.salt call.password)
  | .signedIn _ => none
  | .redirected _ => none
  | .rejected _ _ => none

/-- The checks are passed. -/
def passed (call : SetupCall) : Bool :=
  match call.phase with
  | .storing => true
  | .signedIn _ => true
  | _ => false

/-- The request has stored its password. -/
def hasStored (call : SetupCall) : Bool :=
  match call.phase with
  | .signedIn _ => true
  | _ => false

end SetupCall

/-- The credentials and the requests for a setup. -/
structure Setup where
  credentials : Credentials
  calls : List SetupCall

namespace Setup

inductive Act
  | request (password salt : Str)
  /-- A request goes on. -/
  | proceed (i : Nat)

def step (hasher : PasswordHasher) (s : Setup) : Act → Option Setup
  | .request password salt => some { s with calls := s.calls ++ [⟨password, salt, .checking⟩] }
  | .proceed i => do
    let (call, c) ← (← s.calls[i]?).step hasher s.credentials
    pure { credentials := c, calls := s.calls.set i call }

/-- A request that is about to check finds a password, or none of the requests that have found none
is about to store a different one. -/
def Alone (s : Setup) : Act → Prop
  | .request _ _ => True
  | .proceed i => ∀ call ∈ s.calls[i]?, call.phase = .checking → s.credentials.isPasswordSet = false →
      ∀ other ∈ s.calls, other.phase = .storing → other.password = call.password

instance (s : Setup) : (a : Act) → Decidable (Alone s a)
  | .request _ _ => isTrue trivial
  | .proceed i => inferInstanceAs (Decidable (∀ call ∈ s.calls[i]?, call.phase = .checking →
      s.credentials.isPasswordSet = false →
        ∀ other ∈ s.calls, other.phase = .storing → other.password = call.password))

variable {hasher : PasswordHasher} {c : Credentials} {s t : Setup} {a : Act} {call : SetupCall}

/-- The hash of a password is stored. -/
def Holds (hasher : PasswordHasher) (c : Credentials) (password : Str) : Prop :=
  ∃ salt, c.db.getSetting PASSWORD_HASH_KEY = some (hasher.hash salt password)

lemma holds_setPassword (hasher : PasswordHasher) (salt password : Str) (c : Credentials) :
    Holds hasher (c.setPassword hasher salt password) password :=
  ⟨salt, Db.getSetting_setSetting_self _ _ _⟩

lemma Holds.isPasswordSet {password : Str} (h : Holds hasher c password) :
    c.isPasswordSet = true := by
  obtain ⟨salt, h⟩ := h
  rw [Credentials.isPasswordSet, h]
  rfl

/-- A request arrives, one checks, or one stores. -/
inductive StepCase (hasher : PasswordHasher) (s : Setup) : Act → Setup → Prop
  | request (password salt : Str) : StepCase hasher s (.request password salt)
      { s with calls := s.calls ++ [⟨password, salt, .checking⟩] }
  | check (i : Nat) (call : SetupCall) : s.calls[i]? = some call → call.phase = .checking →
      StepCase hasher s (.proceed i)
        { s with calls := s.calls.set i { call with phase := call.check s.credentials } }
  | store (i : Nat) (call : SetupCall) : s.calls[i]? = some call → call.phase = .storing →
      StepCase hasher s (.proceed i)
        ⟨s.credentials.setPassword hasher call.salt call.password,
          s.calls.set i { call with phase := .signedIn "/".toList }⟩

lemma step_cases (hs : step hasher s a = some t) : StepCase hasher s a t := by
  cases a with
  | request password salt =>
    cases hs
    exact .request password salt
  | proceed i =>
    obtain ⟨call, hi, hs⟩ := Option.bind_eq_some_iff.1 hs
    obtain ⟨⟨call', c⟩, hc, hs⟩ := Option.bind_eq_some_iff.1 hs
    cases hs
    unfold SetupCall.step at hc
    split at hc
    · next hphase =>
      cases hc
      exact .check i call hi hphase
    · next hphase =>
      cases hc
      exact .store i call hi hphase
    all_goals cases hc

lemma check_storing (h : call.check c = .storing) : c.isPasswordSet = false := by
  unfold SetupCall.check at h
  split at h
  · cases h
  · next hset => exact Bool.eq_false_iff.2 hset

lemma check_signedIn (c : Credentials) (call : SetupCall) (url : Str) :
    call.check c ≠ .signedIn url := by
  unfold SetupCall.check
  split
  · exact nofun
  · split <;> exact nofun

/-- A request that has passed the checks is about to store its password, or has stored it. -/
lemma passed_cases (h : call.passed = true) : call.phase = .storing ∨ call.hasStored = true := by
  unfold SetupCall.passed at h
  unfold SetupCall.hasStored
  split at h
  · next hphase => exact .inl hphase
  · next hphase =>
    rw [hphase]
    exact .inr rfl
  · cases h

lemma passed_of_storing (h : call.phase = .storing) : call.passed = true := by
  rw [SetupCall.passed, h]

lemma passed_of_hasStored (h : call.hasStored = true) : call.passed = true := by
  unfold SetupCall.hasStored at h
  split at h
  · next hphase => rw [SetupCall.passed, hphase]
  · cases h

/-- The invariant: the requests that have passed the checks have one password, which is the stored one
once a request has stored it; with a password at the start, there is none of them. -/
structure Kept (hasher : PasswordHasher) (start : Credentials) (s : Setup) : Prop where
  same : ∀ call ∈ s.calls, ∀ other ∈ s.calls, call.passed = true → other.passed = true →
    call.password = other.password
  live : ∀ call ∈ s.calls, call.hasStored = true → Holds hasher s.credentials call.password
  untouched : start.isPasswordSet = true → s.credentials = start ∧ ∀ call ∈ s.calls,
    call.passed = false

/-- A request that has not passed the checks makes no difference. -/
lemma Kept.of_calls {start : Credentials} {calls : List SetupCall} (h : Kept hasher start s)
    (hcalls : ∀ call ∈ calls, call ∈ s.calls ∨ call.passed = false) :
    Kept hasher start { s with calls := calls } := by
  have hold : ∀ call ∈ calls, call.passed = true → call ∈ s.calls := by
    intro call hmem hp
    rcases hcalls call hmem with hmem | hf
    · exact hmem
    · rw [hf] at hp
      cases hp
  refine ⟨?_, ?_, fun hset => ⟨(h.untouched hset).1, fun call hmem => ?_⟩⟩
  · intro call hc other ho hpc hpo
    exact h.same call (hold call hc hpc) other (hold other ho hpo) hpc hpo
  · intro call hc hs
    exact h.live call (hold call hc (passed_of_hasStored hs)) hs
  · rcases hcalls call hmem with hmem | hf
    · exact (h.untouched hset).2 call hmem
    · exact hf

/-- By what the check finds. -/
lemma Kept.check {start : Credentials} {i : Nat} (h : Kept hasher start s)
    (hi : s.calls[i]? = some call) (hphase : call.phase = .checking)
    (hg : Alone s (.proceed i)) :
    Kept hasher start
      { s with calls := s.calls.set i { call with phase := call.check s.credentials } } := by
  by_cases hcheck : call.check s.credentials = .storing
  · have hset := check_storing hcheck
    have hpass : ∀ other ∈ s.calls, other.passed = true → other.password = call.password := by
      intro other ho hp
      rcases passed_cases hp with hstoring | hstored
      · exact hg call hi hphase hset other ho hstoring
      · rw [(h.live other ho hstored).isPasswordSet] at hset
        cases hset
    rw [hcheck]
    refine ⟨?_, ?_, fun hstart => ?_⟩
    · intro a ha b hb hpa hpb
      rcases List.mem_or_eq_of_mem_set ha with ha | rfl
      · rcases List.mem_or_eq_of_mem_set hb with hb | rfl
        · exact h.same a ha b hb hpa hpb
        · exact hpass a ha hpa
      · rcases List.mem_or_eq_of_mem_set hb with hb | rfl
        · exact (hpass b hb hpb).symm
        · rfl
    · intro a ha hs
      rcases List.mem_or_eq_of_mem_set ha with ha | rfl
      · exact h.live a ha hs
      · cases hs
    · rw [(h.untouched hstart).1, hstart] at hset
      cases hset
  · apply h.of_calls
    intro other ho
    rcases List.mem_or_eq_of_mem_set ho with ho | rfl
    · exact .inl ho
    · right
      apply Bool.eq_false_iff.2
      intro hp
      rcases passed_cases hp with hstoring | hstored
      · exact hcheck hstoring
      · unfold SetupCall.hasStored at hstored
        split at hstored
        · next url hsigned => exact check_signedIn s.credentials call url hsigned
        · cases hstored

lemma Kept.store {start : Credentials} {i : Nat} (h : Kept hasher start s)
    (hi : s.calls[i]? = some call) (hphase : call.phase = .storing) :
    Kept hasher start ⟨s.credentials.setPassword hasher call.salt call.password,
      s.calls.set i { call with phase := .signedIn "/".toList }⟩ := by
  have hmem := List.mem_of_getElem? hi
  have hpass := passed_of_storing hphase
  have hsame : ∀ other ∈ s.calls.set i { call with phase := .signedIn "/".toList },
      other.passed = true → other.password = call.password := by
    intro other ho hp
    rcases List.mem_or_eq_of_mem_set ho with ho | rfl
    · exact h.same other ho call hmem hp hpass
    · rfl
  refine ⟨?_, ?_, fun hstart => ?_⟩
  · intro a ha b hb hpa hpb
    exact (hsame a ha hpa).trans (hsame b hb hpb).symm
  · intro other ho hs
    rw [hsame other ho (passed_of_hasStored hs)]
    exact holds_setPassword hasher _ _ _
  · have hnone := (h.untouched hstart).2 call hmem
    rw [hpass] at hnone
    cases hnone

lemma Kept.step {start : Credentials} (h : Kept hasher start s) (hg : Alone s a)
    (hs : step hasher s a = some t) : Kept hasher start t := by
  cases step_cases hs with
  | request password salt =>
    apply h.of_calls
    intro call hc
    rcases List.mem_append.1 hc with hc | hc
    · exact .inl hc
    · cases List.mem_singleton.1 hc
      exact .inr rfl
  | check i call hi hphase => exact h.check hi hphase hg
  | store i call hi hphase => exact h.store hi hphase

/-- While no two requests with different passwords are between their check and their write, a password
of the start stays, and once a request has stored its password, that is the stored one. -/
theorem setup_keeps (h : Reach (step hasher) Alone ⟨c, []⟩ s) :
    (c.isPasswordSet = true → s.credentials = c) ∧
      ∀ call ∈ s.calls, call.hasStored = true →
        ∃ salt, s.credentials.db.getSetting PASSWORD_HASH_KEY =
          some (hasher.hash salt call.password) := by
  have hinit : Kept hasher c ⟨c, []⟩ :=
    ⟨fun _ hc => (by cases hc), fun _ hc => (by cases hc), fun _ => ⟨rfl, fun _ hc => (by cases hc)⟩⟩
  have hkept : Kept hasher c s := h.invariant hinit fun hu hg hs => hu.step hg hs
  exact ⟨fun hset => (hkept.untouched hset).1, hkept.live⟩

/-- A form that is sent twice, and a request that comes too late. -/
theorem setup_keeps_twice : ∃ s,
    run (guarded (step Web.plain) Alone) ⟨Web.fresh, []⟩
        [.request "a".toList "1".toList, .request "a".toList "2".toList, .proceed 0, .proceed 1,
          .proceed 1, .request "b".toList "3".toList, .proceed 2, .proceed 0] = some s ∧
      s.calls[2]?.map SetupCall.phase = some (.redirected "/login".toList) ∧
      ∀ call ∈ s.calls, call.hasStored = true →
        ∃ salt, s.credentials.db.getSetting PASSWORD_HASH_KEY =
          some (Web.plain.hash salt call.password) := by
  have hrun : run (guarded (step Web.plain) Alone) ⟨Web.fresh, []⟩
      [.request "a".toList "1".toList, .request "a".toList "2".toList, .proceed 0, .proceed 1,
        .proceed 1, .request "b".toList "3".toList, .proceed 2, .proceed 0] = some _ := rfl
  exact ⟨_, hrun, rfl, (setup_keeps (Reach.of_run hrun)).2⟩

/-- Both requests find no password; the second one replaces that of the first. -/
theorem setup_resets :
    ¬∀ (hasher : PasswordHasher) (c : Credentials) (acts : List Act) (s : Setup),
      run (step hasher) ⟨c, []⟩ acts = some s → ∀ call ∈ s.calls, call.hasStored = true →
        ∃ salt, s.credentials.db.getSetting PASSWORD_HASH_KEY =
          some (hasher.hash salt call.password) := by
  intro h
  have hrun : run (step Web.plain) ⟨Web.fresh, []⟩
      [.request "a".toList [], .request "b".toList [], .proceed 0, .proceed 1, .proceed 0,
        .proceed 1] = some _ := rfl
  obtain ⟨salt, hstored⟩ := h Web.plain Web.fresh _ _ hrun _ List.mem_cons_self rfl
  have hne : some "b".toList ≠ some "a".toList := by decide
  exact hne hstored

end Setup
end MediaScanMonitor
