import MediaScanMonitor.Web.Lockout
import MediaScanMonitor.Web.RateLimit

/-!
# Attempt limits

The two throttled forms of `web/auth.py`. A login is verified by a worker thread, and its failure is
recorded when the handler is resumed; a reset is recorded before it is handed over. A handler runs
up to its next `await` in one step, and each reading of the clock is not before the last.
-/

namespace MediaScanMonitor
open Text Transition Window

/-- What a form is answered with. -/
inductive Answer
  | redirect (url : Str)
  | page (error : Str) (status : Nat)
deriving DecidableEq

/-- Where a `POST /auth/login` is. -/
inductive Login
  /-- `check_password` is handed to a worker thread. -/
  | verifying (key password : Str)
  /-- The password is verified, the handler is about to be resumed. -/
  | verified (key : Str) (correct : Bool)
  | returned (key : Str) (authed : Bool) (answer : Answer)
deriving DecidableEq

/-- Where a `POST /auth/reset-password` is. -/
inductive ResetCall
  /-- `reset_to_generated_password` is handed to a worker thread. -/
  | calling (key : Str)
  | returned (key : Str) (answer : Answer)
deriving DecidableEq

/-- A login of the key is handed over and not yet verified. -/
def Login.isVerifying (key : Str) : Login → Bool
  | .verifying key' _ => key' = key
  | _ => false

/-- A login of the key is verified and not yet resumed. -/
def Login.isVerified (key : Str) : Login → Bool
  | .verified key' _ => key' = key
  | _ => false

/-- A login of the key has succeeded. -/
def Login.isAuthed (key : Str) : Login → Bool
  | .returned key' true _ => key' = key
  | _ => false

/-- `login` up to its first `await`. -/
def Login.start (limiter : LoginRateLimiter) (checked : ℚ) (key password : Str) :
    Login × LoginRateLimiter :=
  let (ok, limiter) := limiter.allowed checked key
  if !ok then
    (.returned key false (.page "Too many attempts. Try again later.".toList 429), limiter)
  else (.verifying key password, limiter)

/-- `login` when it is resumed. -/
def Login.finish (limiter : LoginRateLimiter) (pruned recorded : ℚ) (key : Str) (correct : Bool) :
    Login × LoginRateLimiter :=
  if correct then (.returned key true (.redirect "/".toList), limiter.reset key)
  else
    (.returned key false (.page "Incorrect password.".toList 401),
      limiter.recordFailure pruned recorded key)

/-- `reset_password` up to its first `await`. -/
def ResetCall.start (limiter : LoginRateLimiter) (checked pruned recorded : ℚ) (key : Str) :
    ResetCall × LoginRateLimiter :=
  let (ok, limiter) := limiter.allowed checked key
  if !ok then
    (.returned key (.page "Too many reset attempts. Try again later.".toList 429), limiter)
  -- every attempt counts, and before the call, so that parallel ones are seen
  else (.calling key, limiter.recordFailure pruned recorded key)

/-- `reset_password` when it is resumed; the file is not `written` when there is an `OSError`. -/
def ResetCall.finish (key : Str) (written : Bool) : ResetCall :=
  if written then .returned key (.redirect "/login?reset=1".toList)
  else
    .returned key (.page
      "Could not write the new password file; the current password is unchanged.".toList 500)

structure Throttle where
  credentials : Credentials
  limiter : LoginRateLimiter
  resetLimiter : LoginRateLimiter
  /-- No later reading of the clock is before it. -/
  clock : ℚ
  logins : List Login
  resets : List ResetCall
  /-- The key and the time of each call of `check_password`. -/
  verifications : List (Str × ℚ)
  /-- The key and the time of each call of `reset_to_generated_password`. -/
  calls : List (Str × ℚ)

namespace Throttle

/-- The application with its two limiters, before the first request. -/
def boot (credentials : Credentials) (limiter resetLimiter : LoginRateLimiter) (clock : ℚ) :
    Throttle :=
  ⟨credentials, limiter, resetLimiter, clock, [], [], [], []⟩

/-- The application after `create_app`. -/
def createApp (credentials : Credentials) (clock : ℚ) : Throttle :=
  boot credentials (.init 5 300) (.init 3 3600) clock

inductive Act
  /-- A login arrives; `allowed` reads the clock. -/
  | login (key password : Str) (checked : ℚ)
  /-- A worker thread verifies the password. -/
  | verify (i : Nat) (now : ℚ)
  /-- The handler of a login is resumed; `record_failure` reads the clock twice. -/
  | resume (i : Nat) (pruned recorded : ℚ)
  | reset (key : Str) (checked pruned recorded : ℚ)
  | resetReturns (i : Nat) (written : Bool)
  /-- Other requests, and the worker threads of the resets, write. -/
  | write (credentials : Credentials)

def step (hasher : PasswordHasher) (w : Throttle) : Act → Option Throttle
  | .login key password checked =>
    if w.clock ≤ checked then
      let (x, limiter) := Login.start w.limiter checked key password
      some { w with limiter := limiter, clock := checked, logins := w.logins ++ [x] }
    else none
  | .verify i now =>
    match w.logins[i]? with
    -- in a worker thread: other logins of the key go on meanwhile
    | some (.verifying key password) =>
      if w.clock ≤ now then
        some { w with
          clock := now
          logins := w.logins.set i
            (.verified key (w.credentials.checkPassword hasher password))
          verifications := w.verifications ++ [(key, now)] }
      else none
    | _ => none
  | .resume i pruned recorded =>
    match w.logins[i]? with
    | some (.verified key correct) =>
      if w.clock ≤ pruned ∧ pruned ≤ recorded then
        let (x, limiter) := Login.finish w.limiter pruned recorded key correct
        some { w with limiter := limiter, clock := recorded, logins := w.logins.set i x }
      else none
    | _ => none
  | .reset key checked pruned recorded =>
    if w.clock ≤ checked ∧ checked ≤ pruned ∧ pruned ≤ recorded then
      let (x, limiter) := ResetCall.start w.resetLimiter checked pruned recorded key
      some { w with
        resetLimiter := limiter
        clock := recorded
        resets := w.resets ++ [x]
        calls := match x with
          | .calling key => w.calls ++ [(key, recorded)]
          | .returned _ _ => w.calls }
    else none
  | .resetReturns i written =>
    match w.resets[i]? with
    | some (.calling key) => some { w with resets := w.resets.set i (.finish key written) }
    | _ => none
  | .write credentials => some { w with credentials := credentials }

/-- The logins of a key that are handed over and not yet verified. -/
def verifying (w : Throttle) (key : Str) : Nat :=
  w.logins.countP (Login.isVerifying key)

/-- The logins of a key that are verified and not yet resumed. -/
def verified (w : Throttle) (key : Str) : Nat :=
  w.logins.countP (Login.isVerified key)

/-- A login that the limiter lets through finds room beside the logins that are in progress too. -/
def Roomy (w : Throttle) : Act → Prop
  | .login key _ checked => (w.limiter.allowed checked key).1 = true →
      w.verifying key + w.verified key + (w.limiter.prune checked key).1.length <
        w.limiter.maxAttempts
  | _ => True

instance (w : Throttle) : (a : Act) → Decidable (Roomy w a)
  | .login key _ checked => inferInstanceAs (Decidable ((w.limiter.allowed checked key).1 = true →
      w.verifying key + w.verified key + (w.limiter.prune checked key).1.length <
        w.limiter.maxAttempts))
  | .verify _ _ => isTrue trivial
  | .resume _ _ _ => isTrue trivial
  | .reset _ _ _ _ => isTrue trivial
  | .resetReturns _ _ => isTrue trivial
  | .write _ => isTrue trivial

/-- No login of the key has succeeded. -/
def Unauthed (w : Throttle) (key : Str) : Prop :=
  ∀ x ∈ w.logins, x.isAuthed key = false

instance (w : Throttle) (key : Str) : Decidable (w.Unauthed key) :=
  inferInstanceAs (Decidable (∀ x ∈ w.logins, x.isAuthed key = false))

/-- The times in a log that belong to a key. -/
def timesOf (key : Str) (log : List (Str × ℚ)) : List ℚ :=
  (log.filter fun entry => entry.1 = key).map fun entry => entry.2

variable {hasher : PasswordHasher} {w w' : Throttle} {a : Act} {key key' : Str} {n : Nat} {W : ℚ}

/-- What a step does. -/
inductive StepCase (hasher : PasswordHasher) (w : Throttle) : Act → Throttle → Prop
  | refused (key password : Str) (checked : ℚ) (answer : Answer) : w.clock ≤ checked →
      StepCase hasher w (.login key password checked)
        { w with
          limiter := (w.limiter.prune checked key).2
          clock := checked
          logins := w.logins ++ [.returned key false answer] }
  | admitted (key password : Str) (checked : ℚ) : w.clock ≤ checked →
      (w.limiter.allowed checked key).1 = true →
      StepCase hasher w (.login key password checked)
        { w with
          limiter := (w.limiter.prune checked key).2
          clock := checked
          logins := w.logins ++ [.verifying key password] }
  | verify (i : Nat) (now : ℚ) (key password : Str) : w.clock ≤ now →
      w.logins[i]? = some (.verifying key password) →
      StepCase hasher w (.verify i now)
        { w with
          clock := now
          logins := w.logins.set i (.verified key (w.credentials.checkPassword hasher password))
          verifications := w.verifications ++ [(key, now)] }
  | accepted (i : Nat) (pruned recorded : ℚ) (key : Str) (answer : Answer) : w.clock ≤ recorded →
      w.logins[i]? = some (.verified key true) →
      StepCase hasher w (.resume i pruned recorded)
        { w with
          limiter := w.limiter.reset key
          clock := recorded
          logins := w.logins.set i (.returned key true answer) }
  | rejected (i : Nat) (pruned recorded : ℚ) (key : Str) (answer : Answer) : w.clock ≤ pruned →
      pruned ≤ recorded → w.logins[i]? = some (.verified key false) →
      StepCase hasher w (.resume i pruned recorded)
        { w with
          limiter := w.limiter.recordFailure pruned recorded key
          clock := recorded
          logins := w.logins.set i (.returned key false answer) }
  | resetRefused (key : Str) (checked pruned recorded : ℚ) (answer : Answer) : w.clock ≤ checked →
      checked ≤ recorded →
      StepCase hasher w (.reset key checked pruned recorded)
        { w with
          resetLimiter := (w.resetLimiter.prune checked key).2
          clock := recorded
          resets := w.resets ++ [.returned key answer] }
  | called (key : Str) (checked pruned recorded : ℚ) : w.clock ≤ checked → checked ≤ pruned →
      pruned ≤ recorded → (w.resetLimiter.allowed checked key).1 = true →
      StepCase hasher w (.reset key checked pruned recorded)
        { w with
          resetLimiter :=
            (w.resetLimiter.prune checked key).2.recordFailure pruned recorded key
          clock := recorded
          resets := w.resets ++ [.calling key]
          calls := w.calls ++ [(key, recorded)] }
  | resetReturns (i : Nat) (written : Bool) (key : Str) :
      StepCase hasher w (.resetReturns i written)
        { w with resets := w.resets.set i (.finish key written) }
  | write (credentials : Credentials) :
      StepCase hasher w (.write credentials) { w with credentials := credentials }

lemma step_cases (hs : step hasher w a = some w') : StepCase hasher w a w' := by
  cases a with
  | login key password checked =>
    rw [step, Login.start] at hs
    split at hs
    · next hc =>
      cases hok : (w.limiter.allowed checked key).1 with
      | false =>
        simp only [hok] at hs
        cases hs
        exact .refused key password checked _ hc
      | true =>
        simp only [hok] at hs
        cases hs
        exact .admitted key password checked hc hok
    · cases hs
  | verify i now =>
    rw [step] at hs
    split at hs
    · next key password hi =>
      split at hs
      · next hc =>
        cases hs
        exact .verify i now key password hc hi
      · cases hs
    · cases hs
  | resume i pruned recorded =>
    rw [step] at hs
    split at hs
    · next key correct hi =>
      split at hs
      · next hc =>
        cases correct with
        | true =>
          cases hs
          exact .accepted i pruned recorded key _ (hc.1.trans hc.2) hi
        | false =>
          cases hs
          exact .rejected i pruned recorded key _ hc.1 hc.2 hi
      · cases hs
    · cases hs
  | reset key checked pruned recorded =>
    rw [step, ResetCall.start] at hs
    split at hs
    · next hc =>
      cases hok : (w.resetLimiter.allowed checked key).1 with
      | false =>
        simp only [hok] at hs
        cases hs
        exact .resetRefused key checked pruned recorded _ hc.1 (hc.2.1.trans hc.2.2)
      | true =>
        simp only [hok] at hs
        cases hs
        exact .called key checked pruned recorded hc.1 hc.2.1 hc.2.2 hok
    · cases hs
  | resetReturns i written =>
    rw [step] at hs
    split at hs
    · next key hi =>
      cases hs
      exact .resetReturns i written key
    · cases hs
  | write credentials =>
    cases hs
    exact .write credentials

lemma timesOf_snoc_self (key : Str) (log : List (Str × ℚ)) (t : ℚ) :
    timesOf key (log ++ [(key, t)]) = timesOf key log ++ [t] := by
  simp [timesOf]

lemma timesOf_snoc_ne (h : key' ≠ key) (log : List (Str × ℚ)) (t : ℚ) :
    timesOf key (log ++ [(key', t)]) = timesOf key log := by
  simp [timesOf, h]

/-- The times of a key are not after the clock when no time is. -/
lemma le_of_mem_timesOf {log : List (Str × ℚ)} {x t : ℚ} (h : ∀ entry ∈ log, entry.2 ≤ x)
    (ht : t ∈ timesOf key log) : t ≤ x := by
  obtain ⟨entry, he, rfl⟩ := List.mem_map.1 ht
  exact h entry (List.mem_of_mem_filter he)

/-- The login that is replaced has not succeeded yet. -/
lemma Unauthed.of_set {i : Nat} {x y : Login} (hi : w.logins[i]? = some x)
    (hx : x.isAuthed key = false) (h : ∀ z ∈ w.logins.set i y, z.isAuthed key = false) :
    w.Unauthed key := by
  intro z hz
  rcases eq_or_mem_set (b := y) hi hz with rfl | hz
  · exact hx
  · exact h z hz

/-- The verifications of a key in the window that ends now are counted: by a login that is still in
progress, or by a failure that the limiter keeps. -/
structure Counted (n : Nat) (W : ℚ) (key : Str) (w : Throttle) : Prop where
  known : ∀ {x}, w.clock - W ≤ x →
    later x (timesOf key w.verifications) ≤ w.verified key + later x (w.limiter.times key)
  room : w.verifying key + later (w.clock - W) (timesOf key w.verifications) ≤ n
  limited : Limited n W (timesOf key w.verifications)

/-- The invariant of the logins. -/
structure Logins (n : Nat) (W : ℚ) (w : Throttle) : Prop where
  max : w.limiter.maxAttempts = n
  window : w.limiter.window = W
  past : ∀ entry ∈ w.verifications, entry.2 ≤ w.clock
  counted : ∀ {key}, w.Unauthed key → Counted n W key w

/-- A step that verifies nothing, begins nothing and forgets nothing that counts. -/
lemma Counted.of (h : Counted n W key w) (hc : w.clock ≤ w'.clock)
    (hv : timesOf key w'.verifications = timesOf key w.verifications)
    (hverified : w'.verified key = w.verified key)
    (hverifying : w'.verifying key = w.verifying key)
    (hl : ∀ {x}, w'.clock - W ≤ x → later x (w'.limiter.times key) = later x (w.limiter.times key)) :
    Counted n W key w' := by
  have hW : w.clock - W ≤ w'.clock - W := sub_le_sub_right hc W
  refine ⟨fun hx => ?_, ?_, ?_⟩
  · rw [hv, hverified, hl hx]
    exact h.known (hW.trans hx)
  · have hanti := later_anti hW (timesOf key w.verifications)
    have hroom := h.room
    rw [hv, hverifying]
    omega
  · rw [hv]
    exact h.limited

/-- A login that is handed over takes a place that is free. -/
lemma Counted.letThrough {password : Str} {checked : ℚ}
    (h : Counted w.limiter.maxAttempts w.limiter.window key w) (hc : w.clock ≤ checked)
    (hok : (w.limiter.allowed checked key').1 = true)
    (hg : Roomy w (.login key' password checked)) :
    Counted w.limiter.maxAttempts w.limiter.window key
      { w with
        limiter := (w.limiter.prune checked key').2
        clock := checked
        logins := w.logins ++ [.verifying key' password] } := by
  have hW := sub_le_sub_right hc w.limiter.window
  have hverified : (w.logins ++ [Login.verifying key' password]).countP (Login.isVerified key) =
      w.verified key := List.countP_append
  refine ⟨fun hx => ?_, ?_, h.limited⟩
  · show later _ _ ≤ List.countP _ _ + later _ _
    rw [hverified, LoginRateLimiter.later_prune hx key' key]
    exact h.known (hW.trans hx)
  · show List.countP _ _ + later (checked - w.limiter.window) (timesOf key w.verifications) ≤ _
    rw [List.countP_append, List.countP_singleton]
    have hroom := h.room
    have hanti := later_anti hW (timesOf key w.verifications)
    unfold verifying at hroom
    by_cases hk : key' = key
    · subst hk
      have hfree := hg hok
      have hlen : (w.limiter.prune checked key').1.length =
          later (checked - w.limiter.window) (w.limiter.times key') := length_prune _ _
      have hknown := h.known hW
      have hone : Login.isVerifying key' (.verifying key' password) = true := decide_eq_true rfl
      rw [if_pos hone]
      unfold verifying at hfree
      omega
    · have hzero : Login.isVerifying key (.verifying key' password) = false := decide_eq_false hk
      rw [if_neg (Bool.eq_false_iff.1 hzero)]
      omega

/-- A verification takes the place of the login that was handed over. -/
lemma Counted.verify {i : Nat} {now : ℚ} {password : Str} {correct : Bool} (h : Counted n W key w)
    (hc : w.clock ≤ now) (hi : w.logins[i]? = some (.verifying key' password)) :
    Counted n W key
      { w with
        clock := now
        logins := w.logins.set i (.verified key' correct)
        verifications := w.verifications ++ [(key', now)] } := by
  have hW := sub_le_sub_right hc W
  have hing := countP_set (b := .verified key' correct) (p := Login.isVerifying key) hi
  have hed := countP_set (b := .verified key' correct) (p := Login.isVerified key) hi
  by_cases hk : key' = key
  · subst hk
    have hsnoc : ∀ x, later x (timesOf key' (w.verifications ++ [(key', now)])) ≤
        later x (timesOf key' w.verifications) + 1 := by
      intro x
      rw [timesOf_snoc_self]
      exact later_snoc_le x now _
    simp only [Login.isVerifying, Login.isVerified, decide_true, if_true, Bool.false_eq_true,
      if_false, Nat.add_zero] at hing hed
    have hroom : (w.logins.set i (.verified key' correct)).countP (Login.isVerifying key') +
        later (now - W) (timesOf key' (w.verifications ++ [(key', now)])) ≤ n := by
      have hanti := later_anti hW (timesOf key' w.verifications)
      have hle := hsnoc (now - W)
      have hroom := h.room
      unfold verifying at hroom
      omega
    refine ⟨fun {x} hx => ?_, hroom, ?_⟩
    · show later x (timesOf key' (w.verifications ++ [(key', now)])) ≤
        List.countP _ _ + later x (w.limiter.times key')
      have hknown := h.known (hW.trans hx)
      have hle := hsnoc x
      unfold verified at hknown
      rw [hed]
      omega
    · show Limited n W (timesOf key' (w.verifications ++ [(key', now)]))
      rw [timesOf_snoc_self] at hroom ⊢
      exact h.limited.snoc ((Nat.le_add_left _ _).trans hroom)
  · simp only [Login.isVerifying, Login.isVerified, hk, decide_false, Bool.false_eq_true, if_false,
      Nat.add_zero] at hing hed
    exact h.of hc (timesOf_snoc_ne hk _ _) hed hing fun _ => rfl

/-- A failure that is recorded takes the place of the login that was in progress. -/
lemma Counted.reject {i : Nat} {pruned recorded : ℚ} {answer : Answer}
    (h : Counted n w.limiter.window key w) (hpast : ∀ entry ∈ w.verifications, entry.2 ≤ w.clock)
    (hc : w.clock ≤ pruned) (hr : pruned ≤ recorded)
    (hi : w.logins[i]? = some (.verified key' false)) :
    Counted n w.limiter.window key
      { w with
        limiter := w.limiter.recordFailure pruned recorded key'
        clock := recorded
        logins := w.logins.set i (.returned key' false answer) } := by
  have hing := countP_set (b := .returned key' false answer) (p := Login.isVerifying key) hi
  have hed := countP_set (b := .returned key' false answer) (p := Login.isVerified key) hi
  by_cases hk : key' = key
  · subst hk
    simp only [Login.isVerifying, Login.isVerified, decide_true, if_true, Bool.false_eq_true,
      if_false, Nat.add_zero] at hing hed
    have hW := sub_le_sub_right (hc.trans hr) w.limiter.window
    refine ⟨fun {x} hx => ?_, ?_, h.limited⟩
    · show later x (timesOf key' w.verifications) ≤
        (w.logins.set i (.returned key' false answer)).countP (Login.isVerified key') +
          later x ((w.limiter.recordFailure pruned recorded key').times key')
      rcases lt_or_ge x recorded with hlt | hge
      · have hknown := h.known (hW.trans hx)
        have hp := (sub_le_sub_right hr w.limiter.window).trans hx
        rw [LoginRateLimiter.later_recordFailure hp hlt]
        unfold verified at hknown
        omega
      · -- the window begins after every verification
        rw [later_eq_zero fun t ht => (le_of_mem_timesOf hpast ht).trans ((hc.trans hr).trans hge)]
        exact Nat.zero_le _
    · show (w.logins.set i (.returned key' false answer)).countP (Login.isVerifying key') +
        later (recorded - w.limiter.window) (timesOf key' w.verifications) ≤ n
      have hanti := later_anti hW (timesOf key' w.verifications)
      have hroom := h.room
      unfold verifying at hroom
      omega
  · simp only [Login.isVerifying, Login.isVerified, hk, decide_false, Bool.false_eq_true, if_false,
      Nat.add_zero] at hing hed
    refine h.of (hc.trans hr) rfl hed hing fun _ => ?_
    rw [LoginRateLimiter.times_recordFailure_ne (Ne.symm hk)]

lemma logins_boot (credentials : Credentials) (n : Nat) (W : ℚ) (resetLimiter : LoginRateLimiter)
    (clock : ℚ) : Logins n W (boot credentials (.init n W) resetLimiter clock) :=
  ⟨rfl, rfl, nofun, fun _ => ⟨fun _ => Nat.zero_le _, Nat.zero_le _, limited_nil n W⟩⟩

lemma Logins.step (h : Logins n W w) (hg : Roomy w a) (hs : step hasher w a = some w') :
    Logins n W w' := by
  obtain ⟨rfl, rfl, hpast, hcounted⟩ := h
  have hlater : ∀ {t}, w.clock ≤ t → ∀ entry ∈ w.verifications, entry.2 ≤ t :=
    fun ht entry he => (hpast entry he).trans ht
  cases step_cases hs with
  | refused key password checked answer hc =>
    refine ⟨rfl, rfl, hlater hc, fun {key'} hu => ?_⟩
    have hu' : w.Unauthed key' := fun x hx => hu x (List.mem_append_left _ hx)
    refine (hcounted hu').of hc rfl List.countP_append List.countP_append fun hx => ?_
    exact LoginRateLimiter.later_prune hx key key'
  | admitted key password checked hc hok =>
    refine ⟨rfl, rfl, hlater hc, fun {key'} hu => ?_⟩
    have hu' : w.Unauthed key' := fun x hx => hu x (List.mem_append_left _ hx)
    exact (hcounted hu').letThrough hc hok hg
  | verify i now key password hc hi =>
    refine ⟨rfl, rfl, fun entry he => ?_, fun hu => ?_⟩
    · rcases List.mem_append.1 he with he | he
      · exact hlater hc entry he
      · rw [List.mem_singleton.1 he]
    · exact (hcounted (Unauthed.of_set hi rfl hu)).verify hc hi
  | accepted i pruned recorded key answer hc hi =>
    refine ⟨rfl, rfl, hlater hc, fun {key'} hu => ?_⟩
    have hk : key' ≠ key := by
      intro hk
      have hauthed : Login.isAuthed key' (.returned key true answer) = true :=
        decide_eq_true hk.symm
      exact Bool.false_ne_true ((hu _ (mem_set_self hi _)).symm.trans hauthed)
    have hing := countP_set (b := .returned key true answer) (p := Login.isVerifying key') hi
    have hed := countP_set (b := .returned key true answer) (p := Login.isVerified key') hi
    simp only [Login.isVerifying, Login.isVerified, Ne.symm hk, decide_false, Bool.false_eq_true,
      if_false, Nat.add_zero] at hing hed
    refine (hcounted (Unauthed.of_set hi rfl hu)).of hc rfl hed hing fun _ => ?_
    rw [LoginRateLimiter.times_reset_ne hk]
  | rejected i pruned recorded key answer hc hr hi =>
    refine ⟨rfl, rfl, hlater (hc.trans hr), fun hu => ?_⟩
    exact (hcounted (Unauthed.of_set hi rfl hu)).reject hpast hc hr hi
  | resetRefused key checked pruned recorded answer hc hr =>
    refine ⟨rfl, rfl, hlater (hc.trans hr), fun hu => ?_⟩
    exact (hcounted hu).of (hc.trans hr) rfl rfl rfl fun _ => rfl
  | called key checked pruned recorded hc hp hr hok =>
    refine ⟨rfl, rfl, hlater (hc.trans (hp.trans hr)), fun hu => ?_⟩
    exact (hcounted hu).of (hc.trans (hp.trans hr)) rfl rfl rfl fun _ => rfl
  | resetReturns i written key =>
    exact ⟨rfl, rfl, hpast, fun hu => (hcounted hu).of le_rfl rfl rfl rfl fun _ => rfl⟩
  | write credentials =>
    exact ⟨rfl, rfl, hpast, fun hu => (hcounted hu).of le_rfl rfl rfl rfl fun _ => rfl⟩

/-- The invariant of the resets: every call in the window that ends now is a record that counts. -/
structure Resets (n : Nat) (W : ℚ) (w : Throttle) : Prop where
  max : w.resetLimiter.maxAttempts = n
  window : w.resetLimiter.window = W
  past : ∀ entry ∈ w.calls, entry.2 ≤ w.clock
  known : ∀ {key x}, w.clock - W ≤ x →
    later x (timesOf key w.calls) ≤ later x (w.resetLimiter.times key)
  limited : ∀ key, Limited n W (timesOf key w.calls)

lemma resets_boot (credentials : Credentials) (n : Nat) (W : ℚ) (limiter : LoginRateLimiter)
    (clock : ℚ) : Resets n W (boot credentials limiter (.init n W) clock) :=
  ⟨rfl, rfl, nofun, fun _ => Nat.zero_le _, fun _ => limited_nil n W⟩

/-- A step that calls nothing and forgets nothing that counts. -/
lemma Resets.of (h : Resets n W w) (hc : w.clock ≤ w'.clock) (hcalls : w'.calls = w.calls)
    (hmax : w'.resetLimiter.maxAttempts = w.resetLimiter.maxAttempts)
    (hwindow : w'.resetLimiter.window = w.resetLimiter.window)
    (hl : ∀ {key x}, w'.clock - W ≤ x →
      later x (w'.resetLimiter.times key) = later x (w.resetLimiter.times key)) :
    Resets n W w' := by
  refine ⟨hmax.trans h.max, hwindow.trans h.window, fun entry he => ?_, fun hx => ?_, fun key => ?_⟩
  · rw [hcalls] at he
    exact (h.past entry he).trans hc
  · rw [hcalls, hl hx]
    exact h.known ((sub_le_sub_right hc W).trans hx)
  · rw [hcalls]
    exact h.limited key

/-- A reset that is let through is recorded before it is called. -/
lemma Resets.call {checked pruned recorded : ℚ} (h : Resets n W w) (hc : w.clock ≤ checked)
    (hp : checked ≤ pruned) (hr : pruned ≤ recorded)
    (hok : (w.resetLimiter.allowed checked key).1 = true) :
    Resets n W
      { w with
        resetLimiter := (w.resetLimiter.prune checked key).2.recordFailure pruned recorded key
        clock := recorded
        resets := w.resets ++ [.calling key]
        calls := w.calls ++ [(key, recorded)] } := by
  obtain ⟨rfl, rfl, hpast, hknown, hlimited⟩ := h
  have hcr : w.clock ≤ recorded := hc.trans (hp.trans hr)
  have hcW := sub_le_sub_right hc w.resetLimiter.window
  have hpW := sub_le_sub_right hp w.resetLimiter.window
  have hrW := sub_le_sub_right hr w.resetLimiter.window
  refine ⟨rfl, rfl, fun entry he => ?_, fun {key' x} hx => ?_, fun key' => ?_⟩
  · rcases List.mem_append.1 he with he | he
    · exact (hpast entry he).trans hcr
    · rw [List.mem_singleton.1 he]
  · have hx : recorded - w.resetLimiter.window ≤ x := hx
    show later x (timesOf key' (w.calls ++ [(key, recorded)])) ≤
      later x (((w.resetLimiter.prune checked key).2.recordFailure pruned recorded key).times key')
    have hold : later x (timesOf key' w.calls) ≤ later x (w.resetLimiter.times key') :=
      hknown (hcW.trans (hpW.trans (hrW.trans hx)))
    by_cases hk : key' = key
    · subst hk
      rw [timesOf_snoc_self]
      rcases lt_or_ge x recorded with hlt | hge
      · have hrec := LoginRateLimiter.later_recordFailure
          (l := (w.resetLimiter.prune checked key').2) (hrW.trans hx) hlt key'
        have hprune := LoginRateLimiter.later_prune (hpW.trans (hrW.trans hx)) key' key'
        rw [later_snoc_of_lt hlt, hrec, hprune]
        exact Nat.succ_le_succ hold
      · -- the window begins after every call
        rw [later_snoc_of_le hge,
          later_eq_zero fun t ht => (le_of_mem_timesOf hpast ht).trans (hcr.trans hge)]
        exact Nat.zero_le _
    · rw [timesOf_snoc_ne (Ne.symm hk), LoginRateLimiter.times_recordFailure_ne hk,
        LoginRateLimiter.times_prune_ne hk]
      exact hold
  · show Limited _ _ (timesOf key' (w.calls ++ [(key, recorded)]))
    by_cases hk : key' = key
    · subst hk
      rw [timesOf_snoc_self]
      apply (hlimited key').snoc
      have hfree := (LoginRateLimiter.allowed_iff _ _ _).1 hok
      have hsnoc := later_snoc_le (recorded - w.resetLimiter.window) recorded (timesOf key' w.calls)
      have hanti := later_anti (hpW.trans hrW) (timesOf key' w.calls)
      have hold : later (checked - w.resetLimiter.window) (timesOf key' w.calls) ≤
          later (checked - w.resetLimiter.window) (w.resetLimiter.times key') := hknown hcW
      omega
    · rw [timesOf_snoc_ne (Ne.symm hk)]
      exact hlimited key'

lemma Resets.step (h : Resets n W w) (hs : step hasher w a = some w') : Resets n W w' := by
  cases step_cases hs with
  | refused key password checked answer hc => exact h.of hc rfl rfl rfl fun _ => rfl
  | admitted key password checked hc hok => exact h.of hc rfl rfl rfl fun _ => rfl
  | verify i now key password hc hi => exact h.of hc rfl rfl rfl fun _ => rfl
  | accepted i pruned recorded key answer hc hi => exact h.of hc rfl rfl rfl fun _ => rfl
  | rejected i pruned recorded key answer hc hr hi =>
    exact h.of (hc.trans hr) rfl rfl rfl fun _ => rfl
  | resetRefused key checked pruned recorded answer hc hr =>
    obtain rfl := h.window
    refine h.of (hc.trans hr) rfl rfl rfl fun {key' x} hx => ?_
    exact LoginRateLimiter.later_prune ((sub_le_sub_right hr _).trans hx) key key'
  | called key checked pruned recorded hc hp hr hok => exact h.call hc hp hr hok
  | resetReturns i written key => exact h.of le_rfl rfl rfl rfl fun _ => rfl
  | write credentials => exact h.of le_rfl rfl rfl rfl fun _ => rfl

/-- A reset is recorded in the step that lets it through, so that no interleaving exceeds the
limit. -/
theorem resets_limited (hasher : PasswordHasher) (credentials : Credentials)
    (limiter : LoginRateLimiter) (n : Nat) (W clock : ℚ)
    (h : Reach (step hasher) Free (boot credentials limiter (.init n W) clock) w) (key : Str) :
    Limited n W (timesOf key w.calls) := by
  have hresets : Resets n W w :=
    h.invariant (resets_boot credentials n W limiter clock) fun hu _ hs => hu.step hs
  exact hresets.limited key

/-- While a login finds room beside the logins in progress too, no half-open window holds more
verifications of a key that has not succeeded, or more resets, than the limiters allow. -/
theorem attempts_limited (hasher : PasswordHasher) (credentials : Credentials) (n m : Nat)
    (W V clock : ℚ)
    (h : Reach (step hasher) Roomy (boot credentials (.init n W) (.init m V) clock) w) (key : Str) :
    (w.Unauthed key → Limited n W (timesOf key w.verifications)) ∧
      Limited m V (timesOf key w.calls) := by
  have hlogins : Logins n W w :=
    h.invariant (logins_boot credentials n W (.init m V) clock) fun hu hg hs => hu.step hg hs
  constructor
  · intro hu
    exact (hlogins.counted hu).limited
  · exact resets_limited hasher credentials _ m V clock (h.mono fun _ => trivial) key

/-- An empty database, in which no password verifies. -/
def unset : Credentials := ⟨⟨[], [], []⟩, none⟩

/-- The key of the sample clients. -/
def client : Str := "10.0.0.2".toList

/-- Five logins that overlap, one that is refused, one in the next window, and four resets. -/
theorem attempts_limited_five :
    ∃ w, run (guarded (step Web.plain) Roomy) (createApp unset 0)
        [.login client [] 0, .login client [] 0, .login client [] 0, .login client [] 0,
          .login client [] 0, .verify 0 1, .verify 1 1, .verify 2 1, .verify 3 1, .verify 4 1,
          .resume 4 1 1, .resume 3 1 1, .resume 2 1 1, .resume 1 1 1, .resume 0 1 1,
          .login client [] 2, .login client [] 302, .verify 6 302, .reset client 302 302 302,
          .reset client 302 302 302, .reset client 302 302 302, .reset client 302 302 302] =
          some w ∧
      (timesOf client w.verifications).length = 6 ∧ (timesOf client w.calls).length = 3 ∧
      Limited 5 300 (timesOf client w.verifications) ∧ Limited 3 3600 (timesOf client w.calls) := by
  have hrun : ((run (guarded (step Web.plain) Roomy) (createApp unset 0)
        [.login client [] 0, .login client [] 0, .login client [] 0, .login client [] 0,
          .login client [] 0, .verify 0 1, .verify 1 1, .verify 2 1, .verify 3 1, .verify 4 1,
          .resume 4 1 1, .resume 3 1 1, .resume 2 1 1, .resume 1 1 1, .resume 0 1 1,
          .login client [] 2, .login client [] 302, .verify 6 302, .reset client 302 302 302,
          .reset client 302 302 302, .reset client 302 302 302, .reset client 302 302 302]).map
      fun w => decide (w.Unauthed client ∧ (timesOf client w.verifications).length = 6 ∧
        (timesOf client w.calls).length = 3)) = some true := by decide +kernel
  obtain ⟨w, hrun, hw⟩ := Option.map_eq_some_iff.1 hrun
  obtain ⟨hu, hverifications, hcalls⟩ := of_decide_eq_true hw
  have hlimited := attempts_limited Web.plain unset 5 3 300 3600 0 (Reach.of_run hrun) client
  exact ⟨w, hrun, hverifications, hcalls, hlimited.1 hu, hlimited.2⟩

/-- Six logins pass the check before the first of them is recorded. -/
theorem attempts_overlap :
    ¬ ∀ (hasher : PasswordHasher) (credentials : Credentials) (n m : Nat) (W V clock : ℚ)
        (acts : List Act) (w : Throttle) (key : Str),
      run (step hasher) (boot credentials (.init n W) (.init m V) clock) acts = some w →
      (w.Unauthed key → Limited n W (timesOf key w.verifications)) ∧
        Limited m V (timesOf key w.calls) := by
  intro h
  have hrun : ((run (step Web.plain) (createApp unset 0)
        [.login client [] 0, .login client [] 0, .login client [] 0, .login client [] 0,
          .login client [] 0, .login client [] 0, .verify 0 1, .verify 1 1, .verify 2 1,
          .verify 3 1, .verify 4 1, .verify 5 1]).map fun w =>
      decide (w.Unauthed client ∧
        (timesOf client w.verifications).countP (fun t => 0 ≤ t ∧ t < 0 + 300) = 6)) =
      some true := by decide +kernel
  obtain ⟨w, hrun, hw⟩ := Option.map_eq_some_iff.1 hrun
  obtain ⟨hu, hsix⟩ := of_decide_eq_true hw
  have hle := ((h Web.plain unset 5 3 300 3600 0 _ w client hrun).1 hu 0).1
  rw [hsix] at hle
  exact absurd hle (by decide)

end Throttle
end MediaScanMonitor
