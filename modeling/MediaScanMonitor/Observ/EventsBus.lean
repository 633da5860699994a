import MediaScanMonitor.Lib.Picks
import MediaScanMonitor.Pipeline.Dispatcher

/-!
# The event bus

`observ/events_bus.py`, over any type of records, and the account of one subscriber. A subscriber
that is too slow loses its oldest records; what it gets is followed by its positions among the
published records.
-/

namespace MediaScanMonitor
open Text Picks

structure RawEventRecord where
  ts : Str
  eventType : Str
  path : Str
  isDir : Bool
  /-- Routing has found at least one route for the event. -/
  matched : Bool
deriving DecidableEq

/-- A queue that `subscribe` has made. -/
structure Subscription (α : Type) where
  queue : List α
  /-- It is one of `_subscribers`. -/
  registered : Bool
deriving DecidableEq

/-- The body that `EventsBus` and `RawEventsBus` share. -/
structure Bus (α : Type) where
  /-- `maxlen` of the buffer. -/
  capacity : Nat
  /-- `maxsize` of a subscriber's queue. -/
  maxsize : Nat
  buffer : List α
  subscriptions : List (Subscription α)
deriving DecidableEq

abbrev EventsBus := Bus EventRecord

abbrev RawEventsBus := Bus RawEventRecord

variable {α : Type}

/-- `deque.append`. -/
def dequeAppend (maxlen : Nat) (buffer : List α) (record : α) : List α :=
  (buffer ++ [record]).drop ((buffer ++ [record]).length - maxlen)

/-- `asyncio.Queue.full`. -/
def queueFull (maxsize : Nat) (queue : List α) : Bool :=
  0 < maxsize && maxsize ≤ queue.length

/-- `put_nowait`; `none` is a `QueueFull`. -/
def putNowait (maxsize : Nat) (queue : List α) (record : α) : Option (List α) :=
  if queueFull maxsize queue then none else some (queue ++ [record])

namespace Bus

/-- `__init__`. -/
def init (capacity maxsize : Nat) : Bus α :=
  ⟨capacity, maxsize, [], []⟩

/-- One round of the loop in `publish`; the `get_nowait` of an empty queue is suppressed. -/
def offer (maxsize : Nat) (record : α) (sub : Subscription α) : Option (Subscription α) :=
  if sub.registered then
    (putNowait maxsize (if queueFull maxsize sub.queue then sub.queue.tail else sub.queue)
      record).map fun queue => { sub with queue := queue }
  else some sub

/-- `publish`; `none` is an exception. -/
def publish (bus : Bus α) (record : α) : Option (Bus α) := do
  let subscriptions ← bus.subscriptions.mapM (offer bus.maxsize record)
  pure { bus with
    buffer := dequeAppend bus.capacity bus.buffer record
    subscriptions := subscriptions }

/-- `recent`. -/
def recent (bus : Bus α) (limit : Int) : List α :=
  if limit ≤ 0 then [] else bus.buffer.drop (bus.buffer.length - limit.toNat)

/-- `subscribe`, up to its first `get`. -/
def subscribe (bus : Bus α) : Bus α :=
  { bus with subscriptions := bus.subscriptions ++ [⟨[], true⟩] }

/-- The `finally` of `subscribe`. -/
def unsubscribe (bus : Bus α) (i : Nat) : Option (Bus α) :=
  bus.subscriptions[i]?.map fun sub =>
    { bus with subscriptions := bus.subscriptions.set i { sub with registered := false } }

/-- A `get` of a subscriber goes through; `none` when its queue is empty or it is gone. -/
def get (bus : Bus α) (i : Nat) : Option (α × Bus α) :=
  match bus.subscriptions[i]? with
  | some ⟨record :: rest, true⟩ =>
    some (record, { bus with subscriptions := bus.subscriptions.set i ⟨rest, true⟩ })
  | _ => none

end Bus

/-- What has happened to a subscriber. -/
structure Reader (α : Type) where
  /-- The number of records published before it was registered. -/
  since : Nat
  /-- The number of records published before it was discarded. -/
  discarded : Option Nat
  received : List α

/-- The number of records published while the subscriber was registered or before. -/
def Reader.stop (reader : Reader α) (published : List α) : Nat :=
  reader.discarded.getD published.length

/-- The queue holds the last records up to `stop`; what was got stands before them, in order, and a
record that was neither got nor is queued has been pushed out by `maxsize` newer ones. -/
structure Accounts (maxsize : Nat) (published : List α) (sub : Subscription α) (reader : Reader α)
    (got : List Nat) : Prop where
  registered : sub.registered = true ↔ reader.discarded = none
  bounded : maxsize = 0 ∨ sub.queue.length ≤ maxsize
  stop_le : reader.stop published ≤ published.length
  room : reader.since + sub.queue.length ≤ reader.stop published
  queue : sub.queue = (published.take (reader.stop published)).drop
    (reader.stop published - sub.queue.length)
  ordered : got.Pairwise (· < ·)
  window : ∀ k ∈ got, reader.since ≤ k ∧ k + sub.queue.length < reader.stop published
  records : At published got reader.received
  missing : ∀ k, reader.since ≤ k → k + sub.queue.length < reader.stop published → k ∉ got →
    0 < maxsize ∧ k + maxsize < reader.stop published

/-- What `publish` does to a queue that is in order. -/
def Subscription.push (maxsize : Nat) (record : α) (sub : Subscription α) : Subscription α :=
  if sub.registered then
    { sub with
      queue := (if queueFull maxsize sub.queue then sub.queue.tail else sub.queue) ++ [record] }
  else sub

variable {capacity maxsize : Nat} {published : List α} {sub : Subscription α} {reader : Reader α}
  {got : List Nat} {record : α} {bus : Bus α}

lemma queueFull_iff {queue : List α} :
    queueFull maxsize queue = true ↔ 0 < maxsize ∧ maxsize ≤ queue.length := by
  rw [queueFull, Bool.and_eq_true, decide_eq_true_eq, decide_eq_true_eq]

/-- There is room after the oldest record is dropped. -/
lemma offer_eq (record : α) (h : maxsize = 0 ∨ sub.queue.length ≤ maxsize) :
    Bus.offer maxsize record sub = some (sub.push maxsize record) := by
  have hroom : queueFull maxsize (if queueFull maxsize sub.queue then sub.queue.tail
      else sub.queue) = false := by
    apply Bool.eq_false_iff.2
    split
    · next hfull =>
      rw [queueFull_iff] at hfull
      rw [ne_eq, queueFull_iff, List.length_tail]
      omega
    · next hfull => exact hfull
  rw [Bus.offer, Subscription.push, putNowait, if_neg (Bool.eq_false_iff.1 hroom)]
  split <;> rfl

lemma mapM_some {β : Type} {f : α → Option β} {g : α → β} {l : List α}
    (h : ∀ a ∈ l, f a = some (g a)) : l.mapM f = some (l.map g) := by
  induction l with
  | nil => rfl
  | cons a l ih =>
    rw [List.mapM_cons, h a List.mem_cons_self, ih fun b hb => h b (List.mem_cons_of_mem _ hb)]
    rfl

/-- `publish` does not raise when no queue is longer than its bound. -/
lemma publish_eq (record : α)
    (h : ∀ sub ∈ bus.subscriptions, bus.maxsize = 0 ∨ sub.queue.length ≤ bus.maxsize) :
    bus.publish record = some { bus with
      buffer := dequeAppend bus.capacity bus.buffer record
      subscriptions := bus.subscriptions.map (Subscription.push bus.maxsize record) } := by
  rw [Bus.publish, mapM_some fun sub hs => offer_eq record (h sub hs)]
  rfl

/-- The buffer holds the last records. -/
lemma dequeAppend_drop (record : α) :
    dequeAppend capacity (published.drop (published.length - capacity)) record =
      (published ++ [record]).drop ((published ++ [record]).length - capacity) := by
  rw [dequeAppend, ← List.drop_append_of_le_length (Nat.sub_le _ _), List.drop_drop]
  congr 1
  rw [List.length_drop, List.length_append, List.length_singleton]
  omega

lemma drop_snoc {k : Nat} (hk : k ≤ published.length) :
    (published ++ [record]).drop k = published.drop k ++ [record] :=
  List.drop_append_of_le_length hk

/-- Everything is within the history. -/
lemma take_length_snoc : (published ++ [record]).take (published.length + 1) =
    published ++ [record] := by
  apply List.take_of_length_le
  rw [List.length_append]
  exact le_refl _

/-- The end of the window while the subscriber is there. -/
lemma Reader.stop_of_registered (h : reader.discarded = none) :
    reader.stop published = published.length := by
  rw [Reader.stop, h]
  rfl

lemma Reader.stop_snoc (h : reader.discarded = none) (record : α) :
    reader.stop (published ++ [record]) = published.length + 1 := by
  rw [Reader.stop_of_registered h, List.length_append]
  rfl

/-- A subscriber that has gone stays as it was left. -/
lemma Accounts.publish_discarded (h : Accounts maxsize published sub reader got)
    (hr : sub.registered = false) (record : α) :
    Accounts maxsize (published ++ [record]) sub reader got := by
  obtain ⟨hreg, hbound, hstop, hroom, hqueue, hord, hwin, hrec, hmiss⟩ := h
  cases hd : reader.discarded with
  | none =>
    rw [hreg.2 hd] at hr
    cases hr
  | some count =>
    have hsame : reader.stop (published ++ [record]) = reader.stop published := by
      rw [Reader.stop, Reader.stop, hd]
      rfl
    refine ⟨hreg, hbound, ?_, ?_, ?_, hord, ?_, hrec.extend _, ?_⟩
    · rw [hsame, List.length_append]
      omega
    · rw [hsame]
      exact hroom
    · rw [hsame, List.take_append_of_le_length hstop]
      exact hqueue
    · rw [hsame]
      exact hwin
    · rw [hsame]
      exact hmiss

/-- The oldest record leaves a full queue. -/
lemma Accounts.publish_full (h : Accounts maxsize published sub reader got)
    (hr : sub.registered = true) (hfull : 0 < maxsize ∧ maxsize ≤ sub.queue.length) (record : α) :
    Accounts maxsize (published ++ [record]) { sub with queue := sub.queue.tail ++ [record] }
      reader got := by
  obtain ⟨hreg, hbound, -, hroom, hqueue, hord, hwin, hrec, hmiss⟩ := h
  have hnew : reader.stop (published ++ [record]) = published.length + 1 :=
    Reader.stop_snoc (hreg.1 hr) record
  rw [Reader.stop_of_registered (hreg.1 hr)] at hroom hqueue hwin hmiss
  rw [List.take_length] at hqueue
  have hlen : (sub.queue.tail ++ [record]).length = sub.queue.length := by
    rw [List.length_append, List.length_tail, List.length_singleton]
    omega
  have htail : sub.queue.tail = published.drop (published.length + 1 - sub.queue.length) := by
    conv_lhs => rw [hqueue, List.tail_drop]
    congr 1
    omega
  refine ⟨hreg, ?_, ?_, ?_, ?_, hord, ?_, hrec.extend _, ?_⟩
  · rw [hlen]
    exact hbound
  · rw [hnew, List.length_append]
    exact le_refl _
  · rw [hnew, hlen]
    omega
  · rw [hnew, hlen, take_length_snoc, drop_snoc (by omega), ← htail]
  · rw [hnew, hlen]
    intro k hk
    have hkw := hwin k hk
    omega
  · rw [hnew, hlen]
    intro k hk hlt hnot
    -- the record that is pushed out has been followed by a full queue
    by_cases hout : k + sub.queue.length < published.length
    · have hkm := hmiss k hk hout hnot
      omega
    · omega

/-- The record is put behind the others. -/
lemma Accounts.publish_room (h : Accounts maxsize published sub reader got)
    (hr : sub.registered = true) (hroomy : ¬ (0 < maxsize ∧ maxsize ≤ sub.queue.length))
    (record : α) :
    Accounts maxsize (published ++ [record]) { sub with queue := sub.queue ++ [record] }
      reader got := by
  obtain ⟨hreg, hbound, -, hroom, hqueue, hord, hwin, hrec, hmiss⟩ := h
  have hnew : reader.stop (published ++ [record]) = published.length + 1 :=
    Reader.stop_snoc (hreg.1 hr) record
  rw [Reader.stop_of_registered (hreg.1 hr)] at hroom hqueue hwin hmiss
  rw [List.take_length] at hqueue
  have hlen : (sub.queue ++ [record]).length = sub.queue.length + 1 := List.length_append
  refine ⟨hreg, ?_, ?_, ?_, ?_, hord, ?_, hrec.extend _, ?_⟩
  · rw [hlen]
    omega
  · rw [hnew, List.length_append]
    exact le_refl _
  · rw [hnew, hlen]
    omega
  · rw [hnew, hlen, take_length_snoc, Nat.add_sub_add_right, drop_snoc (Nat.sub_le _ _), ← hqueue]
  · rw [hnew, hlen]
    intro k hk
    have hkw := hwin k hk
    omega
  · rw [hnew, hlen]
    intro k hk hlt hnot
    have hkm := hmiss k hk (by omega) hnot
    omega

/-- A record is published: it goes to the end of the queue of a subscriber that is registered. -/
lemma Accounts.publish (h : Accounts maxsize published sub reader got) (record : α) :
    Accounts maxsize (published ++ [record]) (sub.push maxsize record) reader got := by
  cases hr : sub.registered with
  | false =>
    rw [Subscription.push, hr]
    exact h.publish_discarded hr record
  | true =>
    cases hfull : queueFull maxsize sub.queue with
    | true =>
      rw [Subscription.push, if_pos hr, if_pos hfull]
      exact h.publish_full hr (queueFull_iff.1 hfull) record
    | false =>
      have hroomy : ¬ (0 < maxsize ∧ maxsize ≤ sub.queue.length) := by
        rw [← queueFull_iff, hfull]
        exact Bool.false_ne_true
      rw [Subscription.push, if_pos hr, hfull]
      exact h.publish_room hr hroomy record

lemma accounts_new (maxsize : Nat) (published : List α) :
    Accounts maxsize published ⟨[], true⟩ ⟨published.length, none, []⟩ [] := by
  refine ⟨⟨fun _ => rfl, fun _ => rfl⟩, .inr (Nat.zero_le _), le_refl _, le_refl _, ?_,
    .nil, fun _ hk => (by cases hk), rfl, fun k hk hlt _ => ?_⟩
  · rw [List.drop_eq_nil_of_le]
    rw [List.length_take]
    exact Nat.min_le_left _ _
  · exact absurd hlt (Nat.not_lt.2 hk)

/-- The count that a discarded subscriber keeps is the one it had. -/
lemma Accounts.discard (h : Accounts maxsize published sub reader got) :
    Accounts maxsize published { sub with registered := false }
      { reader with discarded := some (reader.stop published) } got := by
  obtain ⟨-, hbound, hstop, hroom, hqueue, hord, hwin, hrec, hmiss⟩ := h
  refine ⟨⟨fun hr => ?_, fun hd => ?_⟩, hbound, hstop, hroom, hqueue, hord, hwin, hrec, hmiss⟩
  · cases hr
  · cases hd

/-- The oldest record of the queue is got. -/
lemma Accounts.get {rest : List α}
    (h : Accounts maxsize published ⟨record :: rest, true⟩ reader got) :
    published[reader.stop published - (rest.length + 1)]? = some record ∧
      Accounts maxsize published ⟨rest, true⟩
        { reader with received := reader.received ++ [record] }
        (got ++ [reader.stop published - (rest.length + 1)]) := by
  obtain ⟨hreg, hbound, hstop, hroom, hqueue, hord, hwin, hrec, hmiss⟩ := h
  dsimp only at hreg hbound hroom hqueue hwin hmiss
  rw [List.length_cons] at hbound hroom hqueue hwin hmiss
  have hlt : reader.stop published - (rest.length + 1) <
      (published.take (reader.stop published)).length := by
    rw [List.length_take]
    omega
  rw [List.drop_eq_getElem_cons hlt] at hqueue
  obtain ⟨hhead, htail⟩ := List.cons.inj hqueue
  have hat : published[reader.stop published - (rest.length + 1)]? = some record := by
    rw [hhead, List.getElem_take]
    exact List.getElem?_eq_getElem _
  have hnext : reader.stop published - (rest.length + 1) + 1 =
      reader.stop published - rest.length := by
    omega
  refine ⟨hat, hreg, ?_, hstop, ?_, ?_, ?_, ?_, hrec.append (at_singleton hat), ?_⟩
  · show maxsize = 0 ∨ rest.length ≤ maxsize
    omega
  · show reader.since + rest.length ≤ reader.stop published
    omega
  · rw [hnext] at htail
    exact htail
  · apply List.pairwise_append.2
    refine ⟨hord, List.pairwise_singleton _ _, fun k hk j hj => ?_⟩
    have hkw := hwin k hk
    rw [List.mem_singleton.1 hj]
    omega
  · intro k hk
    show reader.since ≤ k ∧ k + rest.length < reader.stop published
    rcases List.mem_append.1 hk with hk | hk
    · have hkw := hwin k hk
      omega
    · rw [List.mem_singleton.1 hk]
      omega
  · intro k hk hlt' hnot
    rw [List.mem_append, List.mem_singleton, not_or] at hnot
    have hlt' : k + rest.length < reader.stop published := hlt'
    exact hmiss k hk (by omega) hnot.1

/-- What a subscriber can rely on. -/
structure Delivered (maxsize : Nat) (published : List α) (sub : Subscription α)
    (reader : Reader α) : Prop where
  /-- In order, and no record twice. -/
  subsequence : (reader.received ++ sub.queue).Sublist
    ((published.take (reader.stop published)).drop reader.since)
  suffix : sub.queue <:+ (published.take (reader.stop published)).drop reader.since
  /-- A record at a position at which it neither got one nor has one queued is followed by at least
  `maxsize` newer ones. -/
  missing : ∃ got : List Nat, got.Pairwise (· < ·) ∧ At published got reader.received ∧
    ∀ k, reader.since ≤ k → k + sub.queue.length < reader.stop published → k ∉ got →
      k + maxsize < reader.stop published

lemma Accounts.delivered (h : Accounts maxsize published sub reader got) :
    Delivered maxsize published sub reader := by
  obtain ⟨-, -, hstop, hroom, hqueue, hord, hwin, hrec, hmiss⟩ := h
  have hlen : (published.take (reader.stop published)).length = reader.stop published :=
    List.length_take_of_le hstop
  constructor
  · -- the positions in the queue are the last ones
    have hlast := at_drop (published.take (reader.stop published))
      (reader.stop published - sub.queue.length)
    rw [← hqueue, hlen] at hlast
    have hgot : At (published.take (reader.stop published)) got reader.received := by
      apply Eq.trans _ hrec
      apply List.map_congr_left
      intro k hk
      have hkw := hwin k hk
      exact List.getElem?_take_of_lt (by omega)
    apply (hgot.append hlast).sublist_drop
    · apply List.pairwise_append.2
      refine ⟨hord, List.pairwise_lt_range', fun k hk j hj => ?_⟩
      have hkw := hwin k hk
      have hj := (List.mem_range'_1.1 hj).1
      omega
    · intro k hk
      rcases List.mem_append.1 hk with hk | hk
      · exact (hwin k hk).1
      · have hk := (List.mem_range'_1.1 hk).1
        omega
  · rw [hqueue]
    refine List.drop_suffix_drop_left _ ?_
    omega
  · exact ⟨got, hord, hrec, fun k hk hlt hnot => (hmiss k hk hlt hnot).2⟩

end MediaScanMonitor
