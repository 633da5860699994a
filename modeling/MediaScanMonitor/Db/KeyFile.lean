import MediaScanMonitor.Lib.Text
import MediaScanMonitor.Lib.Transition

/-!
# The key file

`load_or_create_key` of `db/crypto.py`, by any number of calls that share a file. A call goes on in
steps, between two of which the others go on, and may raise an `OSError` or be killed before each of
them. The file is not removed, and what is written is not lost. It exists before it holds the key,
and whoever finds it then takes what is in it for the key.
-/

namespace MediaScanMonitor
open Text Transition

abbrev Bytes := List UInt8

/-- What `bytes.strip` cuts off. -/
def isSpaceByte (b : UInt8) : Bool :=
  b ∈ ([9, 10, 11, 12, 13, 32] : List UInt8)

/-- `bytes.strip`. -/
def stripBytes (bytes : Bytes) : Bytes :=
  (bytes.dropWhile isSpaceByte).rdropWhile isSpaceByte

/-- `s.encode("ascii")`; `none` is a `UnicodeEncodeError`. -/
def encodeAscii (s : Str) : Option Bytes :=
  s.mapM fun c => if c.toNat < 128 then some c.toNat.toUInt8 else none

/-- The bytes of a base64 text that is safe in a URL. -/
def isBase64 (b : UInt8) : Bool :=
  (65 ≤ b && b ≤ 90) || (97 ≤ b && b ≤ 122) || (48 ≤ b && b ≤ 57) || b = 45 || b = 95 || b = 61

/-- What `Fernet.generate_key` returns: 32 random bytes in base64. -/
structure FernetKey where
  bytes : Bytes
  length : bytes.length = 44
  base64 : ∀ b ∈ bytes, isBase64 b = true

/-- Where a call of `load_or_create_key` is. -/
inductive KeyCall
  /-- Before `path.exists()`. -/
  | started
  /-- Before `path.read_bytes()`. -/
  | reading
  /-- Before `Fernet.generate_key()`. -/
  | generating
  /-- Before `path.parent.mkdir`. -/
  | generated (key : FernetKey)
  /-- Before `os.open`. -/
  | opening (key : FernetKey)
  /-- Before `os.fchmod`; the file is created. -/
  | created (key : FernetKey)
  /-- Before `os.write`. -/
  | writing (key : FernetKey)
  /-- Before `os.close`. -/
  | written (key : FernetKey)
  | returned (bytes : Bytes)
  /-- It has returned the key of the environment. -/
  | given (bytes : Bytes)
  /-- It has raised, or its process is killed. -/
  | stopped

/-- A step of a call. -/
inductive KeyMove
  /-- `path.exists()`. -/
  | look
  | read
  | generate (key : FernetKey)
  | mkdir
  /-- `os.open`. -/
  | create
  | fchmod
  /-- So many bytes are written; the count that `os.write` returns is not looked at. -/
  | write (n : Nat)
  | close
  | stop

namespace KeyCall

/-- A call up to its first step. -/
def start (envKey : Option Str) : KeyCall :=
  match envKey with
  | none => .started
  | some [] => .started
  | some envKey =>
    match encodeAscii (strip envKey) with
    | some bytes => .given bytes
    | none => .stopped

/-- The call and the file after a step. -/
def next (file : Option Bytes) : KeyCall → KeyMove → Option (KeyCall × Option Bytes)
  | .started, .look => some (if file.isSome then .reading else .generating, file)
  | .reading, .read =>
    match file with
    | some bytes => some (.returned (stripBytes bytes), file)
    | none => some (.stopped, file)
  | .generating, .generate key => some (.generated key, file)
  | .generated key, .mkdir => some (.opening key, file)
  | .opening key, .create =>
    -- `O_EXCL`: a file that has appeared since is a `FileExistsError`
    if file.isSome then some (.stopped, file) else some (.created key, some [])
  | .created key, .fchmod => some (.writing key, file)
  | .writing key, .write n => some (.written key, some (key.bytes.take n))
  | .written key, .close => some (.returned key.bytes, file)
  | .returned _, .stop => none
  | .given _, .stop => none
  | .stopped, .stop => none
  | _, .stop => some (.stopped, file)
  | _, _ => none

/-- The call has created the file and not yet written the key. -/
def isCreating : KeyCall → Bool
  | .created _ => true
  | .writing _ => true
  | _ => false

end KeyCall

/-- The key file, and the calls on it. -/
structure KeyFile where
  file : Option Bytes
  calls : List KeyCall
  /-- The keys that were generated. -/
  keys : List FernetKey

namespace KeyFile

/-- There is no file yet. -/
def init : KeyFile := ⟨none, [], []⟩

inductive Act
  /-- A process calls `load_or_create_key`. -/
  | call (envKey : Option Str)
  | move (i : Nat) (m : KeyMove)

/-- The keys after a step. -/
def generates (keys : List FernetKey) : KeyMove → List FernetKey
  | .generate key => keys ++ [key]
  | _ => keys

def step (w : KeyFile) : Act → Option KeyFile
  | .call envKey => some { w with calls := w.calls ++ [.start envKey] }
  | .move i m =>
    match w.calls[i]? with
    | none => none
    | some c => (c.next w.file m).map fun moved =>
      { file := moved.2, calls := w.calls.set i moved.1, keys := generates w.keys m }

/-- No call stops after it has created the file and before it has written the whole key, and no other
call reads the file in between. -/
def Undisturbed (w : KeyFile) : Act → Prop
  | .move i .stop => ∀ c ∈ w.calls[i]?, c.isCreating = false
  | .move _ (.write n) => 44 ≤ n
  | .move _ .read => ∀ c ∈ w.calls, c.isCreating = false
  | _ => True

instance (w : KeyFile) : (a : Act) → Decidable (Undisturbed w a)
  | .call _ => isTrue trivial
  | .move i .stop => inferInstanceAs (Decidable (∀ c ∈ w.calls[i]?, c.isCreating = false))
  | .move _ (.write n) => inferInstanceAs (Decidable (44 ≤ n))
  | .move _ .read => inferInstanceAs (Decidable (∀ c ∈ w.calls, c.isCreating = false))
  | .move _ .look => isTrue trivial
  | .move _ (.generate _) => isTrue trivial
  | .move _ .mkdir => isTrue trivial
  | .move _ .create => isTrue trivial
  | .move _ .fchmod => isTrue trivial
  | .move _ .close => isTrue trivial

/-- Every key that was returned is one that was generated, and there is only one. -/
structure Safe (w : KeyFile) : Prop where
  whole : ∀ bytes, .returned bytes ∈ w.calls → ∃ key ∈ w.keys, bytes = key.bytes
  same : ∀ bytes bytes', .returned bytes ∈ w.calls → .returned bytes' ∈ w.calls → bytes = bytes'

end KeyFile

namespace KeyCall

/-- The bytes that the call has returned, or is about to. -/
def result : KeyCall → Option Bytes
  | .written key => some key.bytes
  | .returned bytes => some bytes
  | _ => none

/-- The key that the call has generated. -/
def key : KeyCall → Option FernetKey
  | .generated key => some key
  | .opening key => some key
  | .created key => some key
  | .writing key => some key
  | .written key => some key
  | _ => none

/-- What a step of a call does. -/
inductive Next : Option Bytes → KeyCall → KeyMove → KeyCall → Option Bytes → Prop
  /-- Nothing comes of it, for the file or the result. -/
  | quiet {file c m c'} : (c.isCreating = true → m = .stop) → c'.isCreating = false →
      c'.result = none →
      (∀ key, c'.key = some key → c.key = some key ∨ m = .generate key) → Next file c m c' file
  | read (bytes) : Next (some bytes) .reading .read (.returned (stripBytes bytes)) (some bytes)
  | opened (key) : Next none (.opening key) .create (.created key) (some [])
  | fchmod (file key) : Next file (.created key) .fchmod (.writing key) file
  | written (file key n) :
      Next file (.writing key) (.write n) (.written key) (some (key.bytes.take n))
  | closed (file key) : Next file (.written key) .close (.returned key.bytes) file

variable {file file' : Option Bytes} {c c' : KeyCall} {m : KeyMove}

lemma next_of (h : c.next file m = some (c', file')) : Next file c m c' file' := by
  cases m with
  | stop =>
    cases c with
    | returned bytes => cases h
    | given bytes => cases h
    | stopped => cases h
    | _ =>
      cases h
      exact .quiet (fun _ => rfl) rfl rfl fun _ h => by cases h
  | look =>
    cases c with
    | started =>
      cases file with
      | none =>
        cases h
        exact .quiet (fun h => by cases h) rfl rfl fun _ h => by cases h
      | some bytes =>
        cases h
        exact .quiet (fun h => by cases h) rfl rfl fun _ h => by cases h
    | _ => cases h
  | read =>
    cases c with
    | reading =>
      cases file with
      | none =>
        cases h
        exact .quiet (fun h => by cases h) rfl rfl fun _ h => by cases h
      | some bytes =>
        cases h
        exact .read bytes
    | _ => cases h
  | generate key =>
    cases c with
    | generating =>
      cases h
      exact .quiet (fun h => by cases h) rfl rfl fun _ h => .inr (by cases h; rfl)
    | _ => cases h
  | mkdir =>
    cases c with
    | generated key =>
      cases h
      exact .quiet (fun h => by cases h) rfl rfl fun _ h => .inl h
    | _ => cases h
  | create =>
    cases c with
    | opening key =>
      cases file with
      | none =>
        cases h
        exact .opened key
      | some bytes =>
        cases h
        exact .quiet (fun h => by cases h) rfl rfl fun _ h => by cases h
    | _ => cases h
  | fchmod =>
    cases c with
    | created key =>
      cases h
      exact .fchmod file key
    | _ => cases h
  | write n =>
    cases c with
    | writing key =>
      cases h
      exact .written file key n
    | _ => cases h
  | close =>
    cases c with
    | written key =>
      cases h
      exact .closed file key
    | _ => cases h

/-- A key is generated before it is there. -/
lemma key_of_next (h : c.next file m = some (c', file')) {key : FernetKey}
    (hk : c'.key = some key) : c.key = some key ∨ m = .generate key := by
  cases next_of h with
  | quiet _ _ _ hkey => exact hkey key hk
  | read bytes => cases hk
  | opened key => exact .inl hk
  | fchmod file key => exact .inl hk
  | written file key n => exact .inl hk
  | closed file key => cases hk

end KeyCall

namespace KeyCall

/-- The call has neither created the file nor a result. -/
def Idle (c : KeyCall) : Prop :=
  c.isCreating = false ∧ c.result = none

lemma idle_start (envKey : Option Str) : (start envKey).Idle ∧ (start envKey).key = none := by
  unfold start
  split
  · exact ⟨⟨rfl, rfl⟩, rfl⟩
  · exact ⟨⟨rfl, rfl⟩, rfl⟩
  · split
    · exact ⟨⟨rfl, rfl⟩, rfl⟩
    · exact ⟨⟨rfl, rfl⟩, rfl⟩

end KeyCall

/-- There is no white space in a key. -/
lemma stripBytes_key (key : FernetKey) : stripBytes key.bytes = key.bytes := by
  have hvisible : ∀ b ∈ key.bytes, isSpaceByte b = false := by
    intro b hb
    have hbase := key.base64 b hb
    apply Bool.eq_false_iff.2
    intro hspace
    have hspace : b ∈ ([9, 10, 11, 12, 13, 32] : List UInt8) := of_decide_eq_true hspace
    have hnone : ([9, 10, 11, 12, 13, 32] : List UInt8).all (!isBase64 ·) = true := by decide
    have hnot := List.all_eq_true.1 hnone b hspace
    rw [hbase] at hnot
    cases hnot
  have hdrop : key.bytes.dropWhile isSpaceByte = key.bytes := by
    apply List.dropWhile_eq_self_iff.2
    intro hlen hfirst
    rw [hvisible _ (List.getElem_mem hlen)] at hfirst
    cases hfirst
  unfold stripBytes
  rw [hdrop]
  apply List.rdropWhile_eq_self_iff.2
  intro hne hlast
  rw [hvisible _ (List.getLast_mem hne)] at hlast
  cases hlast

namespace KeyFile

/-- Where the file is: it does not exist, one call is creating it, or it holds the key. -/
inductive Phase (w : KeyFile) : Prop
  | absent : w.file = none → (∀ c ∈ w.calls, c.Idle) → Phase w
  | creating (i : Nat) (c : KeyCall) : w.file.isSome = true → w.calls[i]? = some c →
      c.isCreating = true → (∀ j d, i ≠ j → w.calls[j]? = some d → d.Idle) → Phase w
  | whole (key : FernetKey) : w.file = some key.bytes → key ∈ w.keys →
      (∀ c ∈ w.calls, c.isCreating = false ∧ ∀ bytes ∈ c.result, bytes = key.bytes) → Phase w

/-- Where the file is, and the keys of the calls were generated. -/
structure Inv (w : KeyFile) : Prop where
  phase : Phase w
  generated : ∀ c ∈ w.calls, ∀ key ∈ c.key, key ∈ w.keys

variable {w w' : KeyFile} {a : Act} {i : Nat} {c c' : KeyCall} {m : KeyMove} {file' : Option Bytes}

lemma inv_init : Inv init :=
  ⟨.absent rfl (List.forall_mem_nil _), List.forall_mem_nil _⟩

/-- The calls are those that were there, or idle, and the one that creates the file is among them. -/
lemma Phase.of_idle {calls : List KeyCall} {keys : List FernetKey} (h : Phase w)
    (hkeys : w.keys ⊆ keys)
    (hcalls : ∀ (j : Nat) (d : KeyCall), calls[j]? = some d → w.calls[j]? = some d ∨ d.Idle)
    (hkept : ∀ (j : Nat) (d : KeyCall), w.calls[j]? = some d → d.isCreating = true →
      calls[j]? = some d) :
    Phase { file := w.file, calls := calls, keys := keys } := by
  cases h with
  | absent hfile hidle =>
    refine .absent hfile fun d hd => ?_
    obtain ⟨j, hj⟩ := List.mem_iff_getElem?.1 hd
    rcases hcalls j d hj with hold | hnew
    · exact hidle d (List.mem_of_getElem? hold)
    · exact hnew
  | creating k c hfile hk hc hothers =>
    refine .creating k c hfile (hkept k c hk hc) hc fun j d hj hd => ?_
    rcases hcalls j d hd with hold | hnew
    · exact hothers j d hj hold
    · exact hnew
  | whole key hfile hmem hresults =>
    refine .whole key hfile (hkeys hmem) fun d hd => ?_
    obtain ⟨j, hj⟩ := List.mem_iff_getElem?.1 hd
    rcases hcalls j d hj with hold | hnew
    · exact hresults d (List.mem_of_getElem? hold)
    · refine ⟨hnew.1, fun bytes hb => ?_⟩
      rw [hnew.2] at hb
      cases hb

/-- A new call. -/
lemma Inv.call (h : Inv w) (envKey : Option Str) :
    Inv { w with calls := w.calls ++ [.start envKey] } := by
  obtain ⟨hidle, hkey⟩ := KeyCall.idle_start envKey
  constructor
  · refine h.phase.of_idle (List.Subset.refl _) (fun j d hd => ?_) fun j d hd _ => ?_
    · rw [List.getElem?_append] at hd
      split at hd
      · exact .inl hd
      · rw [List.mem_singleton.1 (List.mem_of_getElem? hd)]
        exact .inr hidle
    · have hlt : j < w.calls.length := (List.getElem?_eq_some_iff.1 hd).1
      exact (List.getElem?_append_left hlt).trans hd
  · intro c hc key hk
    rcases List.mem_append.1 hc with hc | hc
    · exact h.generated c hc key hk
    · rw [List.mem_singleton.1 hc, hkey] at hk
      cases hk

/-- A call that creates the file is the only one that does. -/
lemma Phase.of_creating (h : Phase w) (hi : w.calls[i]? = some c) (hc : c.isCreating = true) :
    w.file.isSome = true ∧ ∀ j d, i ≠ j → w.calls[j]? = some d → d.Idle := by
  cases h with
  | absent _ hidle =>
    rw [(hidle c (List.mem_of_getElem? hi)).1] at hc
    cases hc
  | creating k d hfile hk hd hothers =>
    by_cases hki : k = i
    · subst hki
      exact ⟨hfile, hothers⟩
    · rw [(hothers i c hki hi).1] at hc
      cases hc
  | whole key _ _ hresults =>
    rw [(hresults c (List.mem_of_getElem? hi)).1] at hc
    cases hc

/-- A call that has a result has the key in the file. -/
lemma Phase.of_result (h : Phase w) (hi : w.calls[i]? = some c) {bytes : Bytes}
    (hc : c.result = some bytes) : ∃ key ∈ w.keys, bytes = key.bytes ∧ w.file = some key.bytes ∧
      ∀ c ∈ w.calls, c.isCreating = false ∧ ∀ bytes ∈ c.result, bytes = key.bytes := by
  cases h with
  | absent _ hidle =>
    rw [(hidle c (List.mem_of_getElem? hi)).2] at hc
    cases hc
  | creating k d _ hk hd hothers =>
    by_cases hki : k = i
    · subst hki
      rw [hi] at hk
      cases hk
      cases c with
      | created key => cases hc
      | writing key => cases hc
      | _ => cases hd
    · rw [(hothers i c hki hi).2] at hc
      cases hc
  | whole key hfile hmem hresults =>
    exact ⟨key, hmem, (hresults c (List.mem_of_getElem? hi)).2 bytes hc, hfile, hresults⟩

/-- A step of which nothing comes. -/
lemma Phase.quiet {keys : List FernetKey} (h : Phase w) (hkeys : w.keys ⊆ keys)
    (hi : w.calls[i]? = some c) (hc : c.isCreating = false) (hidle : c'.Idle) :
    Phase { file := w.file, calls := w.calls.set i c', keys := keys } := by
  refine h.of_idle hkeys (fun j d hd => ?_) fun j d hd hcreating => ?_
  · rcases getElem?_set_cases hd with ⟨-, rfl⟩ | ⟨-, hd⟩
    · exact .inr hidle
    · exact .inl hd
  · have hne : i ≠ j := by
      rintro rfl
      rw [hi] at hd
      cases hd
      rw [hc] at hcreating
      cases hcreating
    exact (List.getElem?_set_ne hne).trans hd

lemma subset_generates (keys : List FernetKey) (m : KeyMove) : keys ⊆ generates keys m := by
  unfold generates
  split
  · exact List.subset_append_left _ _
  · exact List.Subset.refl _

/-- The others are idle still when the call that creates the file has taken a step. -/
lemma idle_set {calls : List KeyCall} (c' : KeyCall)
    (hothers : ∀ j d, i ≠ j → calls[j]? = some d → KeyCall.Idle d) :
    ∀ j d, i ≠ j → (calls.set i c')[j]? = some d → KeyCall.Idle d := by
  intro j d hj hd
  rw [List.getElem?_set_ne hj] at hd
  exact hothers j d hj hd

/-- The calls have the key in the file, and so has the one that takes a step. -/
lemma whole_set {calls : List KeyCall} {key : FernetKey}
    (hc' : c'.isCreating = false ∧ ∀ bytes ∈ c'.result, bytes = key.bytes)
    (hothers : ∀ j d, i ≠ j → calls[j]? = some d →
      KeyCall.isCreating d = false ∧ ∀ bytes ∈ d.result, bytes = key.bytes) :
    ∀ d ∈ calls.set i c', d.isCreating = false ∧ ∀ bytes ∈ d.result, bytes = key.bytes := by
  intro d hd
  obtain ⟨j, hj⟩ := List.mem_iff_getElem?.1 hd
  rcases getElem?_set_cases hj with ⟨-, rfl⟩ | ⟨hne, hj⟩
  · exact hc'
  · exact hothers j d hne hj

/-- What one step of a call does to the file and to the calls. -/
lemma Inv.phase_move (h : Inv w) (hg : Undisturbed w (.move i m)) (hi : w.calls[i]? = some c)
    (hn : c.next w.file m = some (c', file')) :
    Phase { file := file', calls := w.calls.set i c', keys := generates w.keys m } := by
  have hkeys := subset_generates w.keys m
  have hmem := List.mem_of_getElem? hi
  have hself : ∀ d : KeyCall, (w.calls.set i d)[i]? = some d := fun d =>
    List.getElem?_set_self (List.getElem?_eq_some_iff.1 hi).1
  obtain ⟨file, calls, keys⟩ := w
  cases KeyCall.next_of hn with
  | quiet hstop hcreating hresult _ =>
    -- a creating call could only have been stopped, which an undisturbed run does not do
    refine h.phase.quiet hkeys hi (Bool.eq_false_iff.2 fun hc => ?_) ⟨hcreating, hresult⟩
    obtain rfl := hstop hc
    rw [hg c hi] at hc
    cases hc
  | read bytes =>
    -- nobody is creating the file, so that it holds a whole key
    cases h.phase with
    | absent hfile _ => cases hfile
    | creating k d _ hk hd _ =>
      rw [hg d (List.mem_of_getElem? hk)] at hd
      cases hd
    | whole key hfile hkey hresults =>
      cases hfile
      refine .whole key rfl (hkeys hkey) (whole_set ⟨rfl, fun bytes hb => ?_⟩ fun j d _ hd =>
        hresults d (List.mem_of_getElem? hd))
      cases hb
      exact stripBytes_key key
  | opened key =>
    -- `O_EXCL`: the call that creates the file is the only one that does
    cases h.phase with
    | absent _ hidle =>
      exact .creating i _ rfl (hself _) rfl
        (idle_set _ fun j d _ hd => hidle d (List.mem_of_getElem? hd))
    | creating k d hfile _ _ _ => cases hfile
    | whole key hfile _ _ => cases hfile
  | fchmod file key =>
    obtain ⟨hfile, hothers⟩ := h.phase.of_creating hi rfl
    exact .creating i _ hfile (hself _) rfl (idle_set _ hothers)
  | written file key n =>
    -- all 44 bytes at once
    have hothers := (h.phase.of_creating hi rfl).2
    have hlen : key.bytes.length ≤ n := key.length.le.trans hg
    refine .whole key (congrArg some (List.take_of_length_le hlen))
      (hkeys (h.generated _ hmem key rfl)) (whole_set ⟨rfl, fun bytes hb => ?_⟩ fun j d hj hd => ?_)
    · cases hb
      rfl
    · obtain ⟨hcreating, hresult⟩ := hothers j d hj hd
      refine ⟨hcreating, fun bytes hb => ?_⟩
      rw [hresult] at hb
      cases hb
  | closed file key =>
    obtain ⟨key', hkey', heq, hfile, hresults⟩ := h.phase.of_result hi rfl
    refine .whole key' hfile (hkeys hkey') (whole_set ⟨rfl, fun bytes hb => ?_⟩ fun j d _ hd =>
      hresults d (List.mem_of_getElem? hd))
    cases hb
    exact heq

/-- A step of a call replaces it in its place. -/
lemma step_move (hs : step w (.move i m) = some w') : ∃ c c' file', w.calls[i]? = some c ∧
    c.next w.file m = some (c', file') ∧
    w' = { file := file', calls := w.calls.set i c', keys := generates w.keys m } := by
  rw [step] at hs
  cases hi : w.calls[i]? with
  | none =>
    rw [hi] at hs
    cases hs
  | some c =>
    rw [hi] at hs
    obtain ⟨⟨c', file'⟩, hn, rfl⟩ := Option.map_eq_some_iff.1 hs
    exact ⟨c, c', file', rfl, hn, rfl⟩

lemma Inv.step (h : Inv w) (hg : Undisturbed w a) (hs : step w a = some w') : Inv w' := by
  cases a with
  | call envKey =>
    cases hs
    exact h.call envKey
  | move i m =>
    obtain ⟨c, c', file', hi, hn, rfl⟩ := step_move hs
    refine ⟨h.phase_move hg hi hn, fun d hd key hk => ?_⟩
    rcases List.mem_or_eq_of_mem_set hd with hd | rfl
    · exact subset_generates w.keys m (h.generated d hd key hk)
    · rcases KeyCall.key_of_next hn hk with hk | rfl
      · exact subset_generates w.keys m (h.generated c (List.mem_of_getElem? hi) key hk)
      · exact List.mem_append_right _ (List.mem_singleton_self key)

/-- A call that returns has the key in the file. -/
lemma Inv.safe (h : Inv w) : Safe w := by
  constructor
  · intro bytes hb
    obtain ⟨i, hi⟩ := List.mem_iff_getElem?.1 hb
    obtain ⟨key, hkey, heq, -⟩ := h.phase.of_result hi rfl
    exact ⟨key, hkey, heq⟩
  · intro bytes bytes' hb hb'
    obtain ⟨i, hi⟩ := List.mem_iff_getElem?.1 hb
    obtain ⟨key, hkey, heq, -, hresults⟩ := h.phase.of_result hi rfl
    exact heq.trans ((hresults _ hb').2 bytes' rfl).symm

/-- While no call is cut off or read over between creating the file and writing the whole key, every
call returns the one key that is in the file. -/
theorem keys_safe (h : Reach step Undisturbed init w) : Safe w :=
  (h.invariant inv_init fun hu hg hs => hu.step hg hs : Inv w).safe

/-- The file holds these bytes, and no call is about to write others. -/
def Settled (bytes : Bytes) (w : KeyFile) : Prop :=
  w.file = some bytes ∧ ∀ c ∈ w.calls, c.isCreating = false

lemma Settled.move {bytes : Bytes} (h : Settled bytes w) (hi : w.calls[i]? = some c)
    (hn : c.next w.file m = some (c', file')) : file' = some bytes ∧ c'.isCreating = false := by
  have hc := h.2 c (List.mem_of_getElem? hi)
  rw [h.1] at hn
  cases KeyCall.next_of hn with
  | quiet _ hc' _ _ => exact ⟨rfl, hc'⟩
  | read bytes => exact ⟨rfl, rfl⟩
  | fchmod file key => cases hc
  | written file key n => cases hc
  | closed file key => exact ⟨rfl, rfl⟩

lemma Settled.step {bytes : Bytes} (h : Settled bytes w) (hs : step w a = some w') :
    Settled bytes w' := by
  cases a with
  | call envKey =>
    cases hs
    refine ⟨h.1, fun c hc => ?_⟩
    rcases List.mem_append.1 hc with hc | hc
    · exact h.2 c hc
    · rw [List.mem_singleton.1 hc]
      exact (KeyCall.idle_start envKey).1.1
  | move i m =>
    obtain ⟨c, c', file', hi, hn, rfl⟩ := step_move hs
    obtain ⟨hfile, hc'⟩ := h.move hi hn
    refine ⟨hfile, fun d hd => ?_⟩
    rcases List.mem_or_eq_of_mem_set hd with hd | rfl
    · exact h.2 d hd
    · exact hc'

/-- A file that no call is about to write is never written again, whatever it holds. -/
theorem file_stays {bytes : Bytes} (h : Reach step Free w w') (hw : Settled bytes w) :
    w'.file = some bytes :=
  (h.invariant hw fun hu _ hs => hu.step hs : Settled bytes w').1

lemma zeros_base64 : ∀ b ∈ (List.replicate 43 65 ++ [61] : Bytes), isBase64 b = true :=
  List.all_eq_true.1 (by decide)

/-- A key, of 32 zeros. -/
def zeros : FernetKey :=
  ⟨List.replicate 43 65 ++ [61], rfl, zeros_base64⟩

/-- A call that is cut off early, one that writes the key, and one that finds it. -/
theorem keys_safe_found :
    ∃ w, run (guarded step Undisturbed) init
        [.call none, .move 0 .look, .move 0 (.generate zeros), .move 0 .mkdir, .move 0 .stop,
          .call none, .move 1 .look, .move 1 (.generate zeros), .move 1 .mkdir, .move 1 .create,
          .move 1 .fchmod, .move 1 (.write 44), .move 1 .close, .call none, .move 2 .look,
          .move 2 .read] = some w ∧
      w.calls = [.stopped, .returned zeros.bytes, .returned zeros.bytes] ∧ Safe w := by
  have hrun : run (guarded step Undisturbed) init
      [.call none, .move 0 .look, .move 0 (.generate zeros), .move 0 .mkdir, .move 0 .stop,
        .call none, .move 1 .look, .move 1 (.generate zeros), .move 1 .mkdir, .move 1 .create,
        .move 1 .fchmod, .move 1 (.write 44), .move 1 .close, .call none, .move 2 .look,
        .move 2 .read] =
      some ⟨some zeros.bytes, [.stopped, .returned zeros.bytes, .returned zeros.bytes],
        [zeros, zeros]⟩ := rfl
  exact ⟨_, hrun, rfl, keys_safe (Reach.of_run hrun)⟩

/-- A call is cut off when it has created the file, and the next one returns no key. -/
theorem keys_lost :
    ¬ ∀ (acts : List Act) (w : KeyFile), run step init acts = some w → Safe w := by
  intro h
  have hrun : run step init
      [.call none, .move 0 .look, .move 0 (.generate zeros), .move 0 .mkdir, .move 0 .create,
        .move 0 .stop, .call none, .move 1 .look, .move 1 .read] =
      some ⟨some [], [.stopped, .returned []], [zeros]⟩ := rfl
  obtain ⟨key, -, hkey⟩ := (h _ _ hrun).whole [] (by simp)
  have hlen := key.length
  rw [← hkey] at hlen
  cases hlen

end KeyFile
end MediaScanMonitor
