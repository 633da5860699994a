import MediaScanMonitor.Web.Setup

/-!
# Access

`web/deps.py` before the routes of `web/app.py`. A session is a signed cookie that the client keeps:
the application only gives cookies out, and never takes one back. A guard reads a setting in a worker
thread, so that resets, changes, logins and setups go on between the arrival of a request and its
guard. The limiters may turn a login or a reset away; then it never goes on here.
-/

namespace MediaScanMonitor
open Text Transition

/-- `_MUST_CHANGE_ALLOWLIST`. -/
def MUST_CHANGE_ALLOWLIST : List Str :=
  ["/account/password".toList, "/auth/logout".toList]

/-- `_on_must_change_allowlist`. -/
def onMustChangeAllowlist (path : Str) : Bool :=
  MUST_CHANGE_ALLOWLIST.any fun pre => path = pre || startsWith path (pre ++ ['/'])

/-- The `HTTPException` of a guard. -/
inductive Denial
  | detail (status : Nat) (detail : Str)
  /-- With a `Location` header. -/
  | seeOther (location : Str)
deriving DecidableEq

/-- `require_api_auth`, with what it reads of the settings; `none` lets the request through. -/
def requireApiAuth (c : Credentials) (authed : Bool) : Option Denial :=
  if authed then
    if c.isMustChange then some (.detail 403 "password change required".toList) else none
  else if !c.isPasswordSet then some (.detail 401 "setup required".toList)
  else some (.detail 401 "authentication required".toList)

/-- `require_page_auth`. -/
def requirePageAuth (c : Credentials) (authed : Bool) (path : Str) : Option Denial :=
  if authed then
    if c.isMustChange && !onMustChangeAllowlist path then
      some (.seeOther "/account/password".toList)
    else none
  else if !c.isPasswordSet then some (.seeOther "/setup".toList)
  else some (.seeOther "/login".toList)

/-- A route, with what a request to it brings and what is random about its handler. -/
inductive Route
  | login (password : Str)
  | setup (password salt : Str)
  | resetPassword (generated salt : Str)
  /-- The login, setup and reset pages, and `/health`. -/
  | unguarded
  /-- A route of a router with `require_api_auth`. -/
  | api (path : Str)
  /-- A route with `require_page_auth`. -/
  | page (path : Str)
  /-- `POST /account/password`, with the same guard. -/
  | changePassword (form : ChangeForm) (salt : Str)
deriving DecidableEq

namespace Route

def path : Route → Str
  | .page path => path
  | .changePassword _ _ => "/account/password".toList
  | .api path => path
  | _ => []

/-- The dependency in front of the route. -/
def guard (c : Credentials) (authed : Bool) : Route → Option Denial
  | .api _ => requireApiAuth c authed
  | .page path => requirePageAuth c authed path
  | .changePassword _ _ => requirePageAuth c authed "/account/password".toList
  | _ => none

/-- It has a guard. -/
def isGuarded : Route → Bool
  | .api _ => true
  | .page _ => true
  | .changePassword _ _ => true
  | _ => false

/-- It is there while the password is still to be changed. -/
def isAllowlisted : Route → Bool
  | .api _ => false
  | route => onMustChangeAllowlist route.path

/-- How it is denied once a password is set. -/
def denial (authed : Bool) : Route → Denial
  | .api _ =>
    if authed then .detail 403 "password change required".toList
    else .detail 401 "authentication required".toList
  | _ => if authed then .seeOther "/account/password".toList else .seeOther "/login".toList

end Route

/-- Where a `POST /auth/login` is. -/
inductive SignIn
  /-- `check_password` is handed to a worker thread. -/
  | verifying (password : Str)
  /-- The handler is about to be resumed. -/
  | verified (password : Str) (correct : Bool)
  | returned (authed : Bool)
deriving DecidableEq

/-- Where a request is that has a guard. -/
inductive GuardPhase
  | guarding
  /-- The handler has been entered. -/
  | letThrough
  | denied (denial : Denial)
deriving DecidableEq

structure GuardedRequest where
  route : Route
  /-- Which of the cookies that were given out it came with. -/
  cookie : Option Nat
  phase : GuardPhase
deriving DecidableEq

/-- Who has stored a password. -/
inductive Stored
  | setup (password : Str)
  | reset (generated : Str)
  | change (form : ChangeForm)
deriving DecidableEq

def Stored.password : Stored → Str
  | .setup password => password
  | .reset generated => generated
  | .change form => form.newPassword

structure Access where
  credentials : Credentials
  signIns : List SignIn
  setups : List SetupCall
  resets : List Reset
  changes : List Change
  requests : List GuardedRequest
  /-- The password that each session was signed in with, by the number of its cookie. -/
  issued : List Str
  /-- The passwords that were stored since the start. -/
  stored : List Stored

namespace Access

/-- The application that serves these credentials. -/
def serving (c : Credentials) : Access := ⟨c, [], [], [], [], [], [], []⟩

/-- `serve_web`, after its bootstrap. -/
def boot (hasher : PasswordHasher) (env : Environment) (generated salt : Str) (c : Credentials) :
    Access :=
  serving (bootstrapPassword hasher env generated salt c)

/-- A request arrives; a cookie that was not given out does not verify. -/
def arrive (s : Access) (route : Route) (cookie : Option Nat) : Access :=
  match route with
  | .login password => { s with signIns := s.signIns ++ [.verifying password] }
  | .setup password salt => { s with setups := s.setups ++ [⟨password, salt, .checking⟩] }
  | .resetPassword generated salt => { s with resets := s.resets ++ [.writing generated salt] }
  | .unguarded => s
  | route =>
    { s with requests := s.requests ++
        [⟨route, cookie.filter fun k => k < s.issued.length, .guarding⟩] }

/-- The handler of a guarded route, up to its first `await`; nothing else has a part in this. -/
def enter (s : Access) : Route → Access
  | .changePassword form salt => { s with changes := s.changes ++ [.reading form salt] }
  | _ => s

/-- What a setup is about to store. -/
def setupStores (call : SetupCall) : List Stored :=
  if call.phase = .storing then [.setup call.password] else []

/-- What a reset is about to store. -/
def resetStores : Reset → List Stored
  | .storing generated _ => [.reset generated]
  | _ => []

/-- What a change is about to store. -/
def changeStores : Change → List Stored
  | .storing form _ => [.change form]
  | _ => []

inductive Act
  | request (route : Route) (cookie : Option Nat)
  | guard (i : Nat)
  | signInStep (i : Nat)
  | setupStep (i : Nat)
  | resetStep (i : Nat)
  | changeStep (i : Nat)

def step (hasher : PasswordHasher) (s : Access) : Act → Option Access
  | .request route cookie => some (s.arrive route cookie)
  | .guard i =>
    match s.requests[i]? with
    | some ⟨route, cookie, .guarding⟩ =>
      match route.guard s.credentials cookie.isSome with
      | some denial => some { s with requests := s.requests.set i ⟨route, cookie, .denied denial⟩ }
      | none =>
        some ({ s with requests := s.requests.set i ⟨route, cookie, .letThrough⟩ }.enter route)
    | _ => none
  | .signInStep i =>
    match s.signIns[i]? with
    | some (.verifying password) =>
      some { s with
        signIns := s.signIns.set i
          (.verified password (s.credentials.checkPassword hasher password)) }
    | some (.verified password true) =>
      some { s with signIns := s.signIns.set i (.returned true), issued := s.issued ++ [password] }
    | some (.verified _ false) => some { s with signIns := s.signIns.set i (.returned false) }
    | _ => none
  | .setupStep i => do
    let call ← s.setups[i]?
    let (call', c) ← call.step hasher s.credentials
    pure { s with
      credentials := c, setups := s.setups.set i call', stored := s.stored ++ setupStores call
      -- the response signs the session in
      issued := s.issued ++ (setupStores call).map Stored.password }
  | .resetStep i => do
    let r ← s.resets[i]?
    let (r', c) ← r.step hasher s.credentials
    pure { s with
      credentials := c, resets := s.resets.set i r', stored := s.stored ++ resetStores r }
  | .changeStep i => do
    let x ← s.changes[i]?
    let (x', c) ← x.step hasher s.credentials
    pure { s with
      credentials := c, changes := s.changes.set i x', stored := s.stored ++ changeStores x }

variable {hasher : PasswordHasher} {start c c' : Credentials} {stored stored' : List Stored}
  {issued issued' : List Str} {s t : Access} {a : Act} {r : GuardedRequest} {p : Str}

/-- A password verifies against no hash but its own. -/
def Argon2 (hasher : PasswordHasher) : Prop :=
  ∀ salt password other, hasher.verify (hasher.hash salt password) other = true → other = password

/-! ## Passwords -/

/-- A password that worked at the start, or that was stored since. -/
def Live (hasher : PasswordHasher) (start : Credentials) (stored : List Stored) (p : Str) : Prop :=
  start.checkPassword hasher p = true ∨ ∃ x ∈ stored, x.password = p

/-- There was no password to be changed, or one was changed since. -/
def Unlocked (start : Credentials) (stored : List Stored) : Prop :=
  start.isMustChange = false ∨ ∃ form, Stored.change form ∈ stored

/-- What a form was checked for. -/
structure Checked (hasher : PasswordHasher) (start : Credentials) (stored : List Stored)
    (form : ChangeForm) : Prop where
  current : Live hasher start stored form.currentPassword
  not_blank : strip form.newPassword ≠ []
  confirmed : form.newPassword = form.confirmPassword

lemma Live.mono (h : Live hasher start stored p) (hsub : stored ⊆ stored') :
    Live hasher start stored' p := by
  rcases h with h | ⟨x, hx, hp⟩
  · exact .inl h
  · exact .inr ⟨x, hsub hx, hp⟩

lemma Unlocked.mono (h : Unlocked start stored) (hsub : stored ⊆ stored') :
    Unlocked start stored' := by
  rcases h with h | ⟨form, hform⟩
  · exact .inl h
  · exact .inr ⟨form, hsub hform⟩

lemma Checked.mono {form : ChangeForm} (h : Checked hasher start stored form)
    (hsub : stored ⊆ stored') : Checked hasher start stored' form :=
  { h with current := h.current.mono hsub }

/-- The credentials, by what was stored: a password that works is known, and the flag is down only
after a change. -/
structure Sound (hasher : PasswordHasher) (start : Credentials) (c : Credentials)
    (stored : List Stored) : Prop where
  works : ∀ p, c.checkPassword hasher p = true → Live hasher start stored p
  set : c.isPasswordSet = true
  flag : c.isMustChange = false → Unlocked start stored

lemma checkPassword_stored (hsound : Argon2 hasher) {salt q : Str}
    (h : (c.setPassword hasher salt q).checkPassword hasher p = true) : p = q := by
  unfold Credentials.checkPassword Credentials.setPassword at h
  rw [Db.getSetting_setSetting_self] at h
  exact hsound salt q p h

lemma Sound.setPassword (hsound : Argon2 hasher) (h : Sound hasher start c stored) (salt : Str)
    (x : Stored) : Sound hasher start (c.setPassword hasher salt x.password) (stored ++ [x]) where
  works p hp := .inr ⟨x, List.mem_append_right _ List.mem_cons_self,
    (checkPassword_stored hsound hp).symm⟩
  set := (Setup.holds_setPassword hasher salt x.password c).isPasswordSet
  flag hflag := by
    rw [Credentials.isMustChange_setPassword] at hflag
    exact (h.flag hflag).mono (List.subset_append_left _ _)

lemma Sound.setMustChange (h : Sound hasher start c stored) (value : Str)
    (hvalue : (c.setMustChange value).isMustChange = false → Unlocked start stored) :
    Sound hasher start (c.setMustChange value) stored where
  works p hp := by
    rw [Credentials.checkPassword_setMustChange] at hp
    exact h.works p hp
  set := by
    unfold Credentials.isPasswordSet Credentials.setMustChange
    rw [Db.getSetting_setSetting (by decide)]
    exact h.set
  flag := hvalue

/-- The file is not read. -/
lemma Sound.file (h : Sound hasher start c stored) (file : Option Str) :
    Sound hasher start { c with file := file } stored :=
  ⟨h.works, h.set, h.flag⟩

lemma Sound.nothing (h : Sound hasher start c stored) : Sound hasher start c (stored ++ []) := by
  rwa [List.append_nil]

lemma Sound.setup {call call' : SetupCall} (h : Sound hasher start c stored)
    (hpassed : call.passed = false) (hcall : call.step hasher c = some (call', c')) :
    call'.passed = false ∧ setupStores call = [] ∧ c' = c := by
  obtain ⟨password, salt, phase⟩ := call
  cases phase with
  | checking =>
    cases hcall
    have hcheck : SetupCall.check c ⟨password, salt, .checking⟩ = .redirected "/login".toList :=
      if_pos h.set
    rw [hcheck]
    exact ⟨rfl, rfl, rfl⟩
  | storing => cases hpassed
  | signedIn url => cases hcall
  | redirected url => cases hcall
  | rejected status error => cases hcall

lemma Sound.reset {r r' : Reset} (hsound : Argon2 hasher) (h : Sound hasher start c stored)
    (hr : r.step hasher c = some (r', c')) :
    Sound hasher start c' (stored ++ resetStores r) := by
  cases r with
  | writing generated salt =>
    cases hr
    exact (h.file _).nothing
  | flagging generated salt =>
    cases hr
    refine Sound.nothing (h.setMustChange _ fun hflag => ?_)
    rw [Credentials.isMustChange_setMustChange] at hflag
    cases hflag
  | storing generated salt =>
    cases hr
    exact h.setPassword hsound salt (.reset generated)
  | returned reply => cases hr

/-- A change that is past its write has stored its password. -/
lemma Sound.change {x x' : Change} (hsound : Argon2 hasher) (h : Sound hasher start c stored)
    (hstored : x.stored ≠ none → ∃ form, Stored.change form ∈ stored)
    (hx : x.step hasher c = some (x', c')) :
    Sound hasher start c' (stored ++ changeStores x) := by
  cases x with
  | reading form salt =>
    cases hx
    exact h.nothing
  | checking form salt mustChange =>
    simp only [Change.step] at hx
    split at hx
    · cases hx
      exact h.nothing
    · cases hx
      exact h.nothing
  | storing form salt =>
    cases hx
    exact h.setPassword hsound salt (.change form)
  | clearing form =>
    cases hx
    have hchanged := hstored (Option.some_ne_none form.newPassword)
    exact (h.setMustChange _ fun _ => .inr hchanged).nothing
  | unlinking form =>
    cases hx
    exact (h.file none).nothing
  | changed form reply => cases hx
  | refused reply => cases hx

/-! ## Requests -/

/-- A request with its guard: nothing is let through without a cookie that was given out. -/
structure Answered (start : Credentials) (stored : List Stored) (issued : List Str)
    (r : GuardedRequest) : Prop where
  guarded : r.route.isGuarded = true
  cookie : ∀ k ∈ r.cookie, k < issued.length
  letThrough : r.phase = .letThrough →
    r.cookie.isSome = true ∧ (Unlocked start stored ∨ r.route.isAllowlisted = true)
  denied : ∀ d, r.phase = .denied d → d = r.route.denial r.cookie.isSome

lemma Answered.mono (h : Answered start stored issued r) (hsub : stored ⊆ stored')
    (hlen : issued.length ≤ issued'.length) : Answered start stored' issued' r where
  guarded := h.guarded
  cookie k hk := (h.cookie k hk).trans_le hlen
  letThrough hphase := by
    obtain ⟨hcookie, hopen⟩ := h.letThrough hphase
    exact ⟨hcookie, hopen.imp_left fun hu => hu.mono hsub⟩
  denied := h.denied

lemma requireApiAuth_denied {authed : Bool} {d : Denial} (hset : c.isPasswordSet = true)
    (h : requireApiAuth c authed = some d) (path : Str) : d = (Route.api path).denial authed := by
  unfold requireApiAuth at h
  rw [hset] at h
  cases authed with
  | false => exact (Option.some.inj h).symm
  | true =>
    simp only [if_true] at h
    split at h
    · exact (Option.some.inj h).symm
    · cases h

lemma requireApiAuth_passed {authed : Bool} (h : requireApiAuth c authed = none) :
    authed = true ∧ c.isMustChange = false := by
  unfold requireApiAuth at h
  split at h
  · next hauthed =>
    split at h
    · cases h
    · next hflag => exact ⟨hauthed, Bool.eq_false_iff.2 hflag⟩
  · split at h <;> cases h

lemma requirePageAuth_denied {authed : Bool} {d : Denial} {path : Str}
    (hset : c.isPasswordSet = true) (h : requirePageAuth c authed path = some d) :
    d = (Route.page path).denial authed := by
  unfold requirePageAuth at h
  rw [hset] at h
  cases authed with
  | false => exact (Option.some.inj h).symm
  | true =>
    simp only [if_true] at h
    split at h
    · exact (Option.some.inj h).symm
    · cases h

lemma requirePageAuth_passed {authed : Bool} {path : Str}
    (h : requirePageAuth c authed path = none) :
    authed = true ∧ (c.isMustChange = false ∨ onMustChangeAllowlist path = true) := by
  unfold requirePageAuth at h
  split at h
  · next hauthed =>
    split at h
    · cases h
    · next hflag =>
      cases hm : c.isMustChange with
      | false => exact ⟨hauthed, .inl rfl⟩
      | true =>
        rw [hm, Bool.true_and, Bool.not_eq_true', Bool.not_eq_false] at hflag
        exact ⟨hauthed, .inr hflag⟩
  · split at h <;> cases h

lemma Answered.deny {d : Denial} (h : Answered start stored issued r)
    (hset : c.isPasswordSet = true) (hguard : r.route.guard c r.cookie.isSome = some d) :
    Answered start stored issued { r with phase := .denied d } where
  guarded := h.guarded
  cookie := h.cookie
  letThrough := nofun
  denied d' hd := by
    cases hd
    obtain ⟨route, cookie, phase⟩ := r
    have hguarded := h.guarded
    cases route with
    | api path => exact requireApiAuth_denied hset hguard path
    | page path => exact requirePageAuth_denied hset hguard
    | changePassword form salt => exact requirePageAuth_denied hset hguard
    | _ => cases hguarded

lemma Answered.pass (h : Answered start stored issued r) (hc : Sound hasher start c stored)
    (hguard : r.route.guard c r.cookie.isSome = none) :
    Answered start stored issued { r with phase := .letThrough } where
  guarded := h.guarded
  cookie := h.cookie
  letThrough _ := by
    obtain ⟨route, cookie, phase⟩ := r
    have hguarded := h.guarded
    cases route with
    | api path =>
      obtain ⟨hauthed, hflag⟩ := requireApiAuth_passed hguard
      exact ⟨hauthed, .inl (hc.flag hflag)⟩
    | page path =>
      obtain ⟨hauthed, hopen⟩ := requirePageAuth_passed hguard
      exact ⟨hauthed, hopen.imp_left hc.flag⟩
    | changePassword form salt =>
      obtain ⟨hauthed, hopen⟩ := requirePageAuth_passed hguard
      exact ⟨hauthed, hopen.imp_left hc.flag⟩
    | _ => cases hguarded
  denied := nofun

/-! ## Runs -/

/-- What a step does. -/
inductive StepCase (hasher : PasswordHasher) (s : Access) : Act → Access → Prop
  | request (route : Route) (cookie : Option Nat) :
      StepCase hasher s (.request route cookie) (s.arrive route cookie)
  | denied (i : Nat) (r : GuardedRequest) (d : Denial) : s.requests[i]? = some r →
      r.route.guard s.credentials r.cookie.isSome = some d →
      StepCase hasher s (.guard i)
        { s with requests := s.requests.set i { r with phase := .denied d } }
  | letThrough (i : Nat) (r : GuardedRequest) : s.requests[i]? = some r →
      r.route.guard s.credentials r.cookie.isSome = none →
      StepCase hasher s (.guard i)
        ({ s with requests := s.requests.set i { r with phase := .letThrough } }.enter r.route)
  | verify (i : Nat) (password : Str) : s.signIns[i]? = some (.verifying password) →
      StepCase hasher s (.signInStep i)
        { s with
          signIns := s.signIns.set i
            (.verified password (s.credentials.checkPassword hasher password)) }
  | signIn (i : Nat) (password : Str) : s.signIns[i]? = some (.verified password true) →
      StepCase hasher s (.signInStep i)
        { s with
          signIns := s.signIns.set i (.returned true), issued := s.issued ++ [password] }
  | reject (i : Nat) (password : Str) : s.signIns[i]? = some (.verified password false) →
      StepCase hasher s (.signInStep i) { s with signIns := s.signIns.set i (.returned false) }
  | setup (i : Nat) (call call' : SetupCall) (c : Credentials) : s.setups[i]? = some call →
      call.step hasher s.credentials = some (call', c) →
      StepCase hasher s (.setupStep i)
        { s with
          credentials := c, setups := s.setups.set i call', stored := s.stored ++ setupStores call
          issued := s.issued ++ (setupStores call).map Stored.password }
  | reset (i : Nat) (r r' : Reset) (c : Credentials) : s.resets[i]? = some r →
      r.step hasher s.credentials = some (r', c) →
      StepCase hasher s (.resetStep i)
        { s with
          credentials := c, resets := s.resets.set i r', stored := s.stored ++ resetStores r }
  | change (i : Nat) (x x' : Change) (c : Credentials) : s.changes[i]? = some x →
      x.step hasher s.credentials = some (x', c) →
      StepCase hasher s (.changeStep i)
        { s with
          credentials := c, changes := s.changes.set i x', stored := s.stored ++ changeStores x }

lemma step_cases (hs : step hasher s a = some t) : StepCase hasher s a t := by
  cases a with
  | request route cookie =>
    cases hs
    exact .request route cookie
  | guard i =>
    simp only [step] at hs
    split at hs
    · next route cookie hi =>
      split at hs
      · next d hguard =>
        cases hs
        exact .denied i ⟨route, cookie, .guarding⟩ d hi hguard
      · next hguard =>
        cases hs
        exact .letThrough i ⟨route, cookie, .guarding⟩ hi hguard
    · cases hs
  | signInStep i =>
    simp only [step] at hs
    split at hs
    · next password hi =>
      cases hs
      exact .verify i password hi
    · next password hi =>
      cases hs
      exact .signIn i password hi
    · next password hi =>
      cases hs
      exact .reject i password hi
    · cases hs
  | setupStep i =>
    obtain ⟨call, hi, hs⟩ := Option.bind_eq_some_iff.1 hs
    obtain ⟨⟨call', c⟩, hc, hs⟩ := Option.bind_eq_some_iff.1 hs
    cases hs
    exact .setup i call call' c hi hc
  | resetStep i =>
    obtain ⟨r, hi, hs⟩ := Option.bind_eq_some_iff.1 hs
    obtain ⟨⟨r', c⟩, hr, hs⟩ := Option.bind_eq_some_iff.1 hs
    cases hs
    exact .reset i r r' c hi hr
  | changeStep i =>
    obtain ⟨x, hi, hs⟩ := Option.bind_eq_some_iff.1 hs
    obtain ⟨⟨x', c⟩, hx, hs⟩ := Option.bind_eq_some_iff.1 hs
    cases hs
    exact .change i x x' c hi hx

/-- The invariant: what the parties have in hand is accounted for by what was stored. -/
structure Inv (hasher : PasswordHasher) (start : Credentials) (s : Access) : Prop where
  sound : Sound hasher start s.credentials s.stored
  setups : ∀ call ∈ s.setups, call.passed = false
  unset : ∀ p, Stored.setup p ∉ s.stored
  signIns : ∀ p, SignIn.verified p true ∈ s.signIns → Live hasher start s.stored p
  issued : ∀ p ∈ s.issued, Live hasher start s.stored p
  changed : ∀ form, Stored.change form ∈ s.stored → Checked hasher start s.stored form
  storing : ∀ form salt, Change.storing form salt ∈ s.changes → Checked hasher start s.stored form
  cleared : ∀ x ∈ s.changes, x.stored ≠ none → ∃ form, Stored.change form ∈ s.stored
  requests : ∀ r ∈ s.requests, Answered start s.stored s.issued r

lemma Inv.init (hset : start.isPasswordSet = true) : Inv hasher start (serving start) where
  sound := ⟨fun _ hp => .inl hp, hset, .inl⟩
  setups _ hc := by cases hc
  unset _ hp := by cases hp
  signIns _ hp := by cases hp
  issued _ hp := by cases hp
  changed _ hf := by cases hf
  storing _ _ hx := by cases hx
  cleared _ hx := by cases hx
  requests _ hr := by cases hr

/-- Something is stored, or nothing; what was accounted for stays so. -/
lemma Inv.store {xs : List Stored} (h : Inv hasher start s)
    (hc : Sound hasher start c (s.stored ++ xs)) (hset : ∀ p, Stored.setup p ∉ xs)
    (hxs : ∀ form, Stored.change form ∈ xs → Checked hasher start s.stored form) :
    Inv hasher start { s with credentials := c, stored := s.stored ++ xs } := by
  have hsub : s.stored ⊆ s.stored ++ xs := List.subset_append_left _ _
  refine ⟨hc, h.setups, fun p hp => ?_, fun p hp => (h.signIns p hp).mono hsub,
    fun p hp => (h.issued p hp).mono hsub, fun form hform => ?_,
    fun form salt hx => (h.storing form salt hx).mono hsub, fun x hx hstored => ?_,
    fun r hr => (h.requests r hr).mono hsub le_rfl⟩
  · rcases List.mem_append.1 hp with hp | hp
    · exact h.unset p hp
    · exact hset p hp
  · rcases List.mem_append.1 hform with hform | hform
    · exact (h.changed form hform).mono hsub
    · exact (hxs form hform).mono hsub
  · obtain ⟨form, hform⟩ := h.cleared x hx hstored
    exact ⟨form, hsub hform⟩

lemma Inv.setRequest {i : Nat} (h : Inv hasher start s)
    (hr : Answered start s.stored s.issued r) :
    Inv hasher start { s with requests := s.requests.set i r } :=
  { h with
    requests := by
      intro r' hr'
      rcases List.mem_or_eq_of_mem_set hr' with hr' | rfl
      · exact h.requests r' hr'
      · exact hr }

lemma Inv.setChange {i : Nat} {x : Change} (h : Inv hasher start s)
    (hstoring : ∀ form salt, x = .storing form salt → Checked hasher start s.stored form)
    (hcleared : x.stored ≠ none → ∃ form, Stored.change form ∈ s.stored) :
    Inv hasher start { s with changes := s.changes.set i x } :=
  { h with
    storing := by
      intro form salt hx
      rcases List.mem_or_eq_of_mem_set hx with hx | hx
      · exact h.storing form salt hx
      · exact hstoring form salt hx.symm
    cleared := by
      intro y hy
      rcases List.mem_or_eq_of_mem_set hy with hy | rfl
      · exact h.cleared y hy
      · exact hcleared }

/-- A session is signed in, when its password is known. -/
lemma Inv.setSignIn (h : Inv hasher start s) (i : Nat) {l : SignIn} (ps : List Str)
    (hl : ∀ p, l = .verified p true → Live hasher start s.stored p)
    (hps : ∀ p ∈ ps, Live hasher start s.stored p) :
    Inv hasher start { s with signIns := s.signIns.set i l, issued := s.issued ++ ps } :=
  { h with
    signIns := by
      intro p hp
      rcases List.mem_or_eq_of_mem_set hp with hp | hp
      · exact h.signIns p hp
      · exact hl p hp.symm
    issued := by
      intro p hp
      rcases List.mem_append.1 hp with hp | hp
      · exact h.issued p hp
      · exact hps p hp
    requests := by
      intro r hr
      apply (h.requests r hr).mono (List.Subset.refl _)
      rw [List.length_append]
      exact Nat.le_add_right _ _ }

/-- A request arrives; it has nothing in hand. -/
lemma Inv.arrive (h : Inv hasher start s) (route : Route) (cookie : Option Nat) :
    Inv hasher start (s.arrive route cookie) := by
  have hrequest : ∀ route : Route, route.isGuarded = true → Inv hasher start
      { s with requests := s.requests ++
          [⟨route, cookie.filter fun k => k < s.issued.length, .guarding⟩] } := by
    intro route hguarded
    refine { h with requests := fun r hr => ?_ }
    rcases List.mem_append.1 hr with hr | hr
    · exact h.requests r hr
    · cases List.mem_singleton.1 hr
      refine ⟨hguarded, fun k hk => ?_, nofun, nofun⟩
      exact of_decide_eq_true (Option.filter_eq_some_iff.1 hk).2
  cases route with
  | login password =>
    refine { h with signIns := fun p hp => ?_ }
    rcases List.mem_append.1 hp with hp | hp
    · exact h.signIns p hp
    · cases List.mem_singleton.1 hp
  | setup password salt =>
    refine { h with setups := fun call hc => ?_ }
    rcases List.mem_append.1 hc with hc | hc
    · exact h.setups call hc
    · cases List.mem_singleton.1 hc
      rfl
  | resetPassword generated salt => exact { h with }
  | unguarded => exact h
  | api path => exact hrequest _ rfl
  | page path => exact hrequest _ rfl
  | changePassword form salt => exact hrequest _ rfl

/-- The handler of a change is entered. -/
lemma Inv.enter (h : Inv hasher start s) (route : Route) : Inv hasher start (s.enter route) := by
  cases route with
  | changePassword form salt =>
    refine { h with storing := fun f y hx => ?_, cleared := fun x hx hstored => ?_ }
    · rcases List.mem_append.1 hx with hx | hx
      · exact h.storing f y hx
      · cases List.mem_singleton.1 hx
    · rcases List.mem_append.1 hx with hx | hx
      · exact h.cleared x hx hstored
      · cases List.mem_singleton.1 hx
        exact absurd rfl hstored
  | _ => exact h

/-- Nothing is stored. -/
lemma Inv.keep (h : Inv hasher start s) (hc : Sound hasher start c (s.stored ++ [])) :
    Inv hasher start { s with credentials := c, stored := s.stored ++ [] } :=
  h.store hc (fun _ => List.not_mem_nil) (fun _ hf => absurd hf List.not_mem_nil)

/-- A change takes a step: it is past its checks, or it stores what they were passed with. -/
lemma Inv.change {i : Nat} {x x' : Change} (hsound : Argon2 hasher) (h : Inv hasher start s)
    (hi : s.changes[i]? = some x) (hx : x.step hasher s.credentials = some (x', c)) :
    Inv hasher start
      { s with
        credentials := c, changes := s.changes.set i x', stored := s.stored ++ changeStores x } := by
  have hmem := List.mem_of_getElem? hi
  have hc := h.sound.change hsound (h.cleared x hmem) hx
  cases x with
  | reading form salt =>
    cases hx
    exact (h.keep hc).setChange (fun _ _ heq => by cases heq) (fun hne => absurd rfl hne)
  | checking form salt mustChange =>
    have hstore := h.keep hc
    simp only [Change.step] at hx
    split at hx
    · cases hx
      exact hstore.setChange (fun _ _ heq => by cases heq) (fun hne => absurd rfl hne)
    · next herror =>
      cases hx
      refine hstore.setChange (fun form' salt' heq => ?_) (fun hne => absurd rfl hne)
      cases heq
      unfold Change.error at herror
      split_ifs at herror with hcorrect hblank hsame
      rw [Bool.not_eq_true', Bool.not_eq_false] at hcorrect
      have hchecked : Checked hasher start s.stored form :=
        ⟨h.sound.works _ hcorrect, hblank, not_not.1 hsame⟩
      exact hchecked.mono (List.subset_append_left _ _)
  | storing form salt =>
    cases hx
    have hchecked := h.storing form salt hmem
    refine (h.store hc (fun p hp => ?_) (fun f hf => ?_)).setChange ?_ (fun _ => ?_)
    · cases List.mem_singleton.1 hp
    · cases List.mem_singleton.1 hf
      exact hchecked
    · intro form' salt' heq
      cases heq
    · exact ⟨form, List.mem_append_right _ List.mem_cons_self⟩
  | clearing form =>
    cases hx
    have hstore := h.keep hc
    have hchanged := hstore.cleared (.clearing form) hmem (Option.some_ne_none form.newPassword)
    exact hstore.setChange (fun _ _ heq => by cases heq) (fun _ => hchanged)
  | unlinking form =>
    cases hx
    have hstore := h.keep hc
    have hchanged := hstore.cleared (.unlinking form) hmem (Option.some_ne_none form.newPassword)
    exact hstore.setChange (fun _ _ heq => by cases heq) (fun _ => hchanged)
  | changed form reply => cases hx
  | refused reply => cases hx

lemma Inv.step (hsound : Argon2 hasher) (h : Inv hasher start s)
    (hs : step hasher s a = some t) : Inv hasher start t := by
  cases step_cases hs with
  | request route cookie => exact h.arrive route cookie
  | denied i r d hi hguard =>
    have hr := h.requests r (List.mem_of_getElem? hi)
    exact h.setRequest (hr.deny h.sound.set hguard)
  | letThrough i r hi hguard =>
    have hr := h.requests r (List.mem_of_getElem? hi)
    exact (h.setRequest (hr.pass h.sound hguard)).enter r.route
  | verify i password hi =>
    have hl : ∀ p, SignIn.verified password (s.credentials.checkPassword hasher password) =
        .verified p true → Live hasher start s.stored p := by
      intro p heq
      injection heq with hp hcorrect
      exact hp ▸ h.sound.works password hcorrect
    have hset := h.setSignIn i [] hl nofun
    rwa [List.append_nil] at hset
  | signIn i password hi =>
    have hlive := h.signIns password (List.mem_of_getElem? hi)
    refine h.setSignIn i [password] nofun (fun p hp => ?_)
    cases List.mem_singleton.1 hp
    exact hlive
  | reject i password hi =>
    have hset := h.setSignIn i [] (l := .returned false) nofun nofun
    rwa [List.append_nil] at hset
  | setup i call call' c hi hc =>
    obtain ⟨hpassed, hnone, rfl⟩ := h.sound.setup (h.setups call (List.mem_of_getElem? hi)) hc
    rw [hnone, List.map_nil, List.append_nil, List.append_nil]
    refine { h with setups := fun other ho => ?_ }
    rcases List.mem_or_eq_of_mem_set ho with ho | rfl
    · exact h.setups other ho
    · exact hpassed
  | reset i r r' c hi hr =>
    have hstore := h.store (h.sound.reset hsound hr) (fun p hp => ?_) (fun f hf => ?_)
    · exact { hstore with }
    · cases r with
      | storing generated salt => cases List.mem_singleton.1 hp
      | _ => cases hp
    · cases r with
      | storing generated salt => cases List.mem_singleton.1 hf
      | _ => cases hf
  | change i x x' c hi hx => exact h.change hsound hi hx

end Access
end MediaScanMonitor
