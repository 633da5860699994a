import MediaScanMonitor.Lib.History
import MediaScanMonitor.Lib.Transition
import MediaScanMonitor.Observ.EventsBus

/-!
# Event streams

The bus in use: records are published, subscribers come, read and go, and each client of
`web/pages.py` runs an `_event_generator`, which replays the latest records before it subscribes.
-/

namespace MediaScanMonitor
open Transition Picks

variable {α : Type}

/-- Where `_event_generator` stands. -/
inductive StreamPhase (α : Type)
  | created
  /-- In the loop over `recent`. -/
  | replaying (rest : List α)
  /-- In the loop over `subscribe`. -/
  | live (subscriber : Nat)
  /-- At the `await` of `is_disconnected`, with the record at hand. -/
  | checking (subscriber : Nat) (record : α)
  | ended

/-- An `_event_generator` with the records whose frames it has yielded. -/
structure EventStream (α : Type) where
  phase : StreamPhase α
  output : List α

/-- The bus with its history, and the event streams. -/
structure BusRun (α : Type) where
  bus : Bus α
  published : List α
  /-- One for each subscription. -/
  readers : List (Reader α)
  streams : List (EventStream α)

namespace BusRun

inductive Act (α : Type)
  | publish (record : α)
  | subscribe
  | unsubscribe (i : Nat)
  | get (i : Nat)
  /-- A client opens an event stream. -/
  | openStream
  /-- A stream goes on to its next suspension. -/
  | resume (j : Nat)
  /-- The answer of `is_disconnected`. -/
  | answer (j : Nat) (disconnected : Bool)

def start (capacity maxsize : Nat) : BusRun α :=
  ⟨.init capacity maxsize, [], [], []⟩

/-- A new subscriber is registered. -/
def register (s : BusRun α) : BusRun α :=
  { s with bus := s.bus.subscribe, readers := s.readers ++ [⟨s.published.length, none, []⟩] }

/-- A subscriber gets its next record. -/
def take (s : BusRun α) (i : Nat) : Option (α × BusRun α) := do
  let (record, bus) ← s.bus.get i
  let reader ← s.readers[i]?
  pure (record,
    { s with
      bus := bus
      readers := s.readers.set i { reader with received := reader.received ++ [record] } })

/-- A stream changes. -/
def setStream (s : BusRun α) (j : Nat) (stream : EventStream α) : BusRun α :=
  { s with streams := s.streams.set j stream }

def step (s : BusRun α) : Act α → Option (BusRun α)
  | .publish record => do
    let bus ← s.bus.publish record
    pure { s with bus := bus, published := s.published ++ [record] }
  | .subscribe => some s.register
  | .unsubscribe i => do
    let bus ← s.bus.unsubscribe i
    let reader ← s.readers[i]?
    let count := reader.discarded.getD s.published.length
    pure { s with bus := bus, readers := s.readers.set i { reader with discarded := some count } }
  | .get i => (s.take i).map Prod.snd
  | .openStream => some { s with streams := s.streams ++ [⟨.created, []⟩] }
  | .resume j => do
    let stream ← s.streams[j]?
    match stream.phase with
    -- the ring is copied before the stream subscribes
    | .created => pure (s.setStream j { stream with phase := .replaying (s.bus.recent 50) })
    | .replaying (record :: rest) =>
      pure (s.setStream j ⟨.replaying rest, stream.output ++ [record]⟩)
    | .replaying [] =>
      pure (s.register.setStream j { stream with phase := .live s.bus.subscriptions.length })
    -- a record is got before the connection is checked, and then kept or dropped
    | .live i => do
      let (record, s) ← s.take i
      pure (s.setStream j { stream with phase := .checking i record })
    | .checking _ _ => none
    | .ended => none
  | .answer j disconnected => do
    let stream ← s.streams[j]?
    match stream.phase with
    | .checking i record =>
      if disconnected then pure (s.setStream j { stream with phase := .ended })
      else pure (s.setStream j ⟨.live i, stream.output ++ [record]⟩)
    | _ => none

end BusRun

/-- Records at the positions `places` have been put out: first such as were published before the
subscription, then some of those that it has got. -/
def Follows (since : Nat) (got places : List Nat) : Prop :=
  ∃ old new, places = old ++ new ∧ (∀ k ∈ old, k < since) ∧ new.Sublist got

/-- What is ahead of a stream comes after what it has put out. -/
def PhaseOk (published : List α) (readers : List (Reader α)) (got : Nat → List Nat)
    (places : List Nat) : StreamPhase α → Prop
  | .created => places = []
  | .replaying rest => ∃ ahead, (places ++ ahead).Pairwise (· < ·) ∧ At published ahead rest
  | .live i => ∃ reader, readers[i]? = some reader ∧ Follows reader.since (got i) places
  | .checking i record => ∃ reader k, readers[i]? = some reader ∧ published[k]? = some record ∧
      ∃ old new, places = old ++ new ∧ (∀ k ∈ old, k < reader.since) ∧
        (new ++ [k]).Sublist (got i)
  | .ended => True

/-- The stream has put out published records in order, none of them twice. -/
def StreamOk (published : List α) (readers : List (Reader α)) (got : Nat → List Nat)
    (stream : EventStream α) : Prop :=
  ∃ places : List Nat, places.Pairwise (· < ·) ∧ At published places stream.output ∧
    PhaseOk published readers got places stream.phase

variable {capacity maxsize : Nat} {published : List α} {sub : Subscription α} {reader : Reader α}
  {got : List Nat} {record : α} {bus : Bus α} {readers readers' : List (Reader α)}
  {places : List Nat} {stream : EventStream α}
  {got' : Nat → List Nat} {G : Nat → List Nat} {i j : Nat}

/-- Every subscriber is still there, registered when it was. -/
def Kept (readers readers' : List (Reader α)) : Prop :=
  ∀ (i : Nat) (reader : Reader α), readers[i]? = some reader →
    ∃ reader' : Reader α, readers'[i]? = some reader' ∧ reader'.since = reader.since

/-- A stream is not disturbed by what is published, registered or got elsewhere. -/
lemma StreamOk.mono (h : StreamOk published readers G stream) (more : List α)
    (hreaders : Kept readers readers') (hgot : ∀ i, (G i).Sublist (got' i)) :
    StreamOk (published ++ more) readers' got' stream := by
  obtain ⟨places, hord, hout, hphase⟩ := h
  refine ⟨places, hord, hout.extend more, ?_⟩
  cases hp : stream.phase with
  | created =>
    rw [hp] at hphase
    exact hphase
  | replaying rest =>
    rw [hp] at hphase
    obtain ⟨ahead, hpair, hahead⟩ := hphase
    exact ⟨ahead, hpair, hahead.extend more⟩
  | live i =>
    rw [hp] at hphase
    obtain ⟨reader, hr, old, new, hplaces, hold, hnew⟩ := hphase
    obtain ⟨reader', hr', hsince⟩ := hreaders i reader hr
    rw [← hsince] at hold
    exact ⟨reader', hr', old, new, hplaces, hold, hnew.trans (hgot i)⟩
  | checking i record =>
    rw [hp] at hphase
    obtain ⟨reader, k, hr, hk, old, new, hplaces, hold, hnew⟩ := hphase
    obtain ⟨reader', hr', hsince⟩ := hreaders i reader hr
    have hlt := (List.getElem?_eq_some_iff.1 hk).1
    rw [← hsince] at hold
    refine ⟨reader', k, hr', ?_, old, new, hplaces, hold, hnew.trans (hgot i)⟩
    rw [List.getElem?_append_left hlt]
    exact hk
  | ended => trivial

lemma StreamOk.mono_readers (h : StreamOk published readers G stream)
    (hreaders : Kept readers readers') (hgot : ∀ i, (G i).Sublist (got' i)) :
    StreamOk published readers' got' stream := by
  have hmono := h.mono [] hreaders hgot
  rw [List.append_nil] at hmono
  exact hmono

/-- The latest records are replayed. -/
lemma phaseOk_recent (hbuffer : bus.buffer = published.drop (published.length - bus.capacity))
    (limit : Int) : ∃ ahead : List Nat, ahead.Pairwise (· < ·) ∧
      At published ahead (bus.recent limit) := by
  rw [Bus.recent]
  split
  · exact ⟨[], .nil, rfl⟩
  · rw [hbuffer, List.drop_drop]
    exact ⟨_, List.pairwise_lt_range', at_drop published _⟩

namespace BusRun
variable {s s' : BusRun α}

/-- The invariant: the buffer holds the last records, every subscriber is in order with the positions
that it has got, and every stream follows its subscriber. -/
structure Inv (c m : Nat) (got : Nat → List Nat) (s : BusRun α) : Prop where
  capacity : s.bus.capacity = c
  maxsize : s.bus.maxsize = m
  buffer : s.bus.buffer = s.published.drop (s.published.length - c)
  readers : s.readers.length = s.bus.subscriptions.length
  accounts : ∀ i sub reader, s.bus.subscriptions[i]? = some sub → s.readers[i]? = some reader →
    Accounts m s.published sub reader (got i)
  /-- A subscriber to come has got nothing. -/
  fresh : ∀ i, s.readers.length ≤ i → got i = []
  streams : ∀ stream ∈ s.streams, StreamOk s.published s.readers got stream

variable {c m : Nat}

lemma inv_start (c m : Nat) : Inv c m (fun _ => []) (start c m : BusRun α) := by
  refine ⟨rfl, rfl, List.drop_nil.symm, rfl, fun i sub reader hs _ => ?_, fun _ _ => rfl,
    fun _ hm => ?_⟩
  · cases hs
  · cases hm

lemma Inv.has_reader (h : Inv c m G s) (hs : s.bus.subscriptions[i]? = some sub) :
    ∃ reader, s.readers[i]? = some reader := by
  have hlt := (List.getElem?_eq_some_iff.1 hs).1
  rw [← h.readers] at hlt
  exact ⟨_, List.getElem?_eq_getElem hlt⟩

lemma Inv.bounded (h : Inv c m G s) :
    ∀ sub ∈ s.bus.subscriptions, s.bus.maxsize = 0 ∨ sub.queue.length ≤ s.bus.maxsize := by
  intro sub hs
  obtain ⟨i, hi⟩ := List.mem_iff_getElem?.1 hs
  obtain ⟨reader, hr⟩ := h.has_reader hi
  rw [h.maxsize]
  exact (h.accounts i sub reader hi hr).bounded

lemma kept_refl (readers : List (Reader α)) : Kept readers readers :=
  fun _ reader hr => ⟨reader, hr, rfl⟩

lemma kept_append (readers more : List (Reader α)) : Kept readers (readers ++ more) := by
  intro i reader hr
  refine ⟨reader, ?_, rfl⟩
  rw [List.getElem?_append_left (List.getElem?_eq_some_iff.1 hr).1]
  exact hr

lemma kept_set {reader' : Reader α} (hi : readers[i]? = some reader)
    (hsince : reader'.since = reader.since) : Kept readers (readers.set i reader') := by
  intro j other hj
  by_cases hij : i = j
  · subst hij
    rw [hi] at hj
    cases hj
    exact ⟨reader', List.getElem?_set_self (List.getElem?_eq_some_iff.1 hi).1, hsince⟩
  · refine ⟨other, ?_, rfl⟩
    rw [List.getElem?_set_ne hij]
    exact hj

/-- Of two lists that change in the same place, the entries at a place. -/
lemma getElem?_set_both {β γ : Type} {l : List β} {l' : List γ} {a b : β} {a' b' : γ}
    (h : (l.set i b)[j]? = some a) (h' : (l'.set i b')[j]? = some a') :
    i = j ∧ a = b ∧ a' = b' ∨ i ≠ j ∧ l[j]? = some a ∧ l'[j]? = some a' := by
  rcases getElem?_set_cases h with ⟨hij, ha⟩ | ⟨hij, ha⟩
  · rcases getElem?_set_cases h' with ⟨-, ha'⟩ | ⟨hne, -⟩
    · exact .inl ⟨hij, ha, ha'⟩
    · exact absurd hij hne
  · rcases getElem?_set_cases h' with ⟨heq, -⟩ | ⟨-, ha'⟩
    · exact absurd heq hij
    · exact .inr ⟨hij, ha, ha'⟩

lemma Inv.publish (h : Inv c m G s) (hs : step s (.publish record) = some s') :
    Inv c m G s' := by
  have hpub := publish_eq record h.bounded
  rw [step, hpub] at hs
  cases hs
  refine ⟨h.capacity, h.maxsize, ?_, ?_, fun i sub reader hsub hr => ?_, h.fresh,
    fun stream hst => ?_⟩
  · show dequeAppend s.bus.capacity s.bus.buffer record = _
    rw [h.buffer, h.capacity]
    exact dequeAppend_drop record
  · show _ = (s.bus.subscriptions.map _).length
    rw [List.length_map]
    exact h.readers
  · have hsub : (s.bus.subscriptions.map (Subscription.push s.bus.maxsize record))[i]? =
        some sub := hsub
    rw [List.getElem?_map] at hsub
    obtain ⟨old, hold, rfl⟩ := Option.map_eq_some_iff.1 hsub
    rw [h.maxsize]
    exact (h.accounts i old reader hold hr).publish record
  · exact (h.streams stream hst).mono [record] (kept_refl s.readers) fun i => .refl _

lemma Inv.register (h : Inv c m G s) : Inv c m G s.register := by
  refine ⟨h.capacity, h.maxsize, h.buffer, ?_, fun i sub reader hsub hr => ?_, fun i hi => ?_,
    fun stream hst => ?_⟩
  · show (s.readers ++ [_]).length = (s.bus.subscriptions ++ [_]).length
    rw [List.length_append, List.length_append, h.readers]
    rfl
  · rcases History.getElem?_snoc.1 hsub with hsub | ⟨rfl, rfl⟩
    · rcases History.getElem?_snoc.1 hr with hr | ⟨rfl, rfl⟩
      · exact h.accounts i sub reader hsub hr
      · have hlt := (List.getElem?_eq_some_iff.1 hsub).1
        rw [h.readers] at hlt
        exact absurd hlt (Nat.lt_irrefl _)
    · rcases History.getElem?_snoc.1 hr with hr | ⟨-, rfl⟩
      · have hlt := (List.getElem?_eq_some_iff.1 hr).1
        rw [h.readers] at hlt
        exact absurd hlt (Nat.lt_irrefl _)
      · rw [h.fresh _ h.readers.le]
        exact accounts_new m s.published
  · apply h.fresh
    have hi : (s.readers ++ [_]).length ≤ i := hi
    rw [List.length_append] at hi
    exact (Nat.le_add_right _ _).trans hi
  · exact (h.streams stream hst).mono_readers (kept_append _ _) fun i => .refl _

lemma Inv.unsubscribe (h : Inv c m G s) (hs : step s (.unsubscribe i) = some s') :
    Inv c m G s' := by
  obtain ⟨bus, hbus, hs⟩ := Option.bind_eq_some_iff.1 hs
  obtain ⟨reader, hr, hs⟩ := Option.bind_eq_some_iff.1 hs
  obtain ⟨sub, hsub, rfl⟩ := Option.map_eq_some_iff.1 hbus
  cases hs
  refine ⟨h.capacity, h.maxsize, h.buffer, ?_, fun j sub' reader' hsub' hr' => ?_, fun j hj => ?_,
    fun stream hst => ?_⟩
  · show (s.readers.set _ _).length = (s.bus.subscriptions.set _ _).length
    rw [List.length_set, List.length_set]
    exact h.readers
  · rcases getElem?_set_both hsub' hr' with ⟨rfl, rfl, rfl⟩ | ⟨-, hsub', hr'⟩
    · exact (h.accounts i sub reader hsub hr).discard
    · exact h.accounts j sub' reader' hsub' hr'
  · apply h.fresh
    have hj : (s.readers.set _ _).length ≤ j := hj
    rw [List.length_set] at hj
    exact hj
  · exact (h.streams stream hst).mono_readers (kept_set hr rfl) fun i => .refl _

/-- A subscriber gets the record after those it has got, and no other subscriber gets any. -/
lemma Inv.take (h : Inv c m G s) (hs : s.take i = some (record, s')) :
    ∃ (k : Nat) (reader : Reader α), Inv c m (Function.update G i (G i ++ [k])) s' ∧
      s.published[k]? = some record ∧ s.readers[i]? = some reader ∧
      s'.readers[i]? = some { reader with received := reader.received ++ [record] } ∧
      s'.published = s.published ∧ s'.streams = s.streams ∧
      Kept s.readers s'.readers := by
  obtain ⟨⟨record', bus⟩, hbus, hs⟩ := Option.bind_eq_some_iff.1 hs
  obtain ⟨reader, hr, hs⟩ := Option.bind_eq_some_iff.1 hs
  cases hs
  rw [Bus.get] at hbus
  split at hbus
  · next rest hsub =>
    cases hbus
    obtain ⟨hk, hacc⟩ := (h.accounts i _ reader hsub hr).get
    have hkept : Kept s.readers
        (s.readers.set i { reader with received := reader.received ++ [record] }) :=
      kept_set hr rfl
    have hlt := (List.getElem?_eq_some_iff.1 hr).1
    refine ⟨_, reader, ⟨h.capacity, h.maxsize, h.buffer, ?_, fun j sub reader' hsub' hr' => ?_,
      fun j hj => ?_, fun stream hst => ?_⟩, hk, hr, ?_, rfl, rfl, hkept⟩
    · show (s.readers.set _ _).length = (s.bus.subscriptions.set _ _).length
      rw [List.length_set, List.length_set]
      exact h.readers
    · rcases getElem?_set_both hsub' hr' with ⟨rfl, rfl, rfl⟩ | ⟨hne, hsub', hr'⟩
      · rw [Function.update_self]
        exact hacc
      · rw [Function.update_of_ne (Ne.symm hne)]
        exact h.accounts j sub reader' hsub' hr'
    · have hj : (s.readers.set _ _).length ≤ j := hj
      rw [List.length_set] at hj
      have hne : j ≠ i := by omega
      rw [Function.update_of_ne hne]
      exact h.fresh j hj
    · apply (h.streams stream hst).mono_readers hkept
      intro j
      by_cases hj : j = i
      · subst hj
        rw [Function.update_self]
        exact List.sublist_append_left _ _
      · rw [Function.update_of_ne hj]
    · show (s.readers.set i _)[i]? = _
      rw [List.getElem?_set_self hlt]
  · cases hbus

/-- One stream changes, and is in order again. -/
lemma Inv.setStream (h : Inv c m G s) (phase : StreamPhase α) (j : Nat) {output : List α}
    (hord : places.Pairwise (· < ·)) (hout : At s.published places output)
    (hphase : PhaseOk s.published s.readers G places phase) :
    Inv c m G (s.setStream j ⟨phase, output⟩) := by
  refine ⟨h.capacity, h.maxsize, h.buffer, h.readers, h.accounts, h.fresh, fun other ho => ?_⟩
  rcases List.mem_or_eq_of_mem_set ho with ho | rfl
  · exact h.streams other ho
  · exact ⟨places, hord, hout, hphase⟩

/-- The streams that can be found are in order. -/
lemma Inv.stream_ok (h : Inv c m G s) (hj : s.streams[j]? = some stream) :
    StreamOk s.published s.readers G stream :=
  h.streams stream (List.mem_of_getElem? hj)

/-- By where the stream stands. -/
lemma Inv.resume (h : Inv c m G s) (hs : step s (.resume j) = some s') :
    ∃ got, Inv c m got s' := by
  obtain ⟨stream, hj, hs⟩ := Option.bind_eq_some_iff.1 hs
  obtain ⟨places, hord, hout, hphase⟩ := h.stream_ok hj
  split at hs
  · next hp =>
    rw [hp] at hphase
    cases hs
    have hbuffer : s.bus.buffer = s.published.drop (s.published.length - s.bus.capacity) := by
      rw [h.capacity]
      exact h.buffer
    obtain ⟨ahead, hpair, hahead⟩ := phaseOk_recent hbuffer 50
    refine ⟨G, h.setStream (.replaying _) j hord hout ⟨ahead, ?_, hahead⟩⟩
    rw [show places = [] from hphase]
    exact hpair
  · next record rest hp =>
    rw [hp] at hphase
    cases hs
    obtain ⟨ahead, hpair, hahead⟩ := hphase
    cases ahead with
    | nil => cases hahead
    | cons k ahead =>
      obtain ⟨hk, hrest⟩ := hahead.cons_inv
      have hsplit : places ++ k :: ahead = (places ++ [k]) ++ ahead :=
        (List.append_cons places k ahead)
      rw [hsplit] at hpair
      exact ⟨G, h.setStream (.replaying rest) j (List.pairwise_append.1 hpair).1
        (hout.append (at_singleton hk)) ⟨ahead, hpair, hrest⟩⟩
  · next hp =>
    cases hs
    refine ⟨G, h.register.setStream (.live _) j hord hout ⟨⟨s.published.length, none, []⟩, ?_,
      places, [], (List.append_nil _).symm, fun k hk => hout.lt_length hk, List.nil_sublist _⟩⟩
    rw [← h.readers]
    exact List.getElem?_concat_length
  · next i hp =>
    rw [hp] at hphase
    obtain ⟨⟨record, u⟩, htake, hs⟩ := Option.bind_eq_some_iff.1 hs
    cases hs
    obtain ⟨k, reader, hu, hk, hr, hr', hpub, hstreams, hkept⟩ := h.take htake
    obtain ⟨reader₀, hr₀, old, new, hplaces, hold, hnew⟩ := hphase
    rw [hr] at hr₀
    cases hr₀
    refine ⟨_, hu.setStream (.checking i record) j hord ?_
      ⟨_, k, hr', ?_, old, new, hplaces, hold, ?_⟩⟩
    · rw [hpub]
      exact hout
    · rw [hpub]
      exact hk
    · rw [Function.update_self]
      exact hnew.append (List.Sublist.refl [k])
  · cases hs
  · cases hs

/-- What a subscriber has got was published since it was registered. -/
lemma Inv.got_ordered (h : Inv c m G s) (hr : s.readers[i]? = some reader) :
    (G i).Pairwise (· < ·) ∧ ∀ k ∈ G i, reader.since ≤ k := by
  have hlt := (List.getElem?_eq_some_iff.1 hr).1
  rw [h.readers] at hlt
  have hacc := h.accounts i _ reader (List.getElem?_eq_getElem hlt) hr
  exact ⟨hacc.ordered, fun k hk => (hacc.window k hk).1⟩

lemma Inv.answer (h : Inv c m G s) {disconnected : Bool}
    (hs : step s (.answer j disconnected) = some s') : Inv c m G s' := by
  obtain ⟨stream, hj, hs⟩ := Option.bind_eq_some_iff.1 hs
  obtain ⟨places, hord, hout, hphase⟩ := h.stream_ok hj
  split at hs
  · next i record hp =>
    rw [hp] at hphase
    obtain ⟨reader, k, hr, hk, old, new, rfl, hold, hnew⟩ := hphase
    cases disconnected with
    | true =>
      cases hs
      exact h.setStream .ended j hord hout trivial
    | false =>
      cases hs
      obtain ⟨hgot, hsince⟩ := h.got_ordered hr
      have hplaces : old ++ (new ++ [k]) = old ++ new ++ [k] := (List.append_assoc _ _ _).symm
      have hord' : (old ++ (new ++ [k])).Pairwise (· < ·) := by
        apply List.pairwise_append.2
        refine ⟨(List.pairwise_append.1 hord).1, hgot.sublist hnew, fun a ha b hb => ?_⟩
        exact (hold a ha).trans_le (hsince b (hnew.subset hb))
      rw [hplaces] at hord'
      exact h.setStream (.live i) j hord' (hout.append (at_singleton hk))
        ⟨reader, hr, old, new ++ [k], hplaces.symm, hold, hnew⟩
  · cases hs

lemma Inv.step {a : Act α} (h : Inv c m G s) (hs : step s a = some s') :
    ∃ got, Inv c m got s' := by
  cases a with
  | publish record => exact ⟨G, h.publish hs⟩
  | subscribe =>
    cases hs
    exact ⟨G, h.register⟩
  | unsubscribe i => exact ⟨G, h.unsubscribe hs⟩
  | get i =>
    obtain ⟨⟨record, u⟩, htake, rfl⟩ := Option.map_eq_some_iff.1 hs
    obtain ⟨k, -, hu, -⟩ := h.take htake
    exact ⟨_, hu⟩
  | openStream =>
    cases hs
    refine ⟨G, h.capacity, h.maxsize, h.buffer, h.readers, h.accounts, h.fresh,
      fun stream hst => ?_⟩
    rcases List.mem_append.1 hst with hst | hst
    · exact h.streams stream hst
    · cases List.mem_singleton.1 hst
      exact ⟨[], .nil, rfl, rfl⟩
  | resume j => exact h.resume hs
  | answer j disconnected => exact ⟨G, h.answer hs⟩

/-- The latest records, as far as the buffer goes. -/
lemma Inv.recent (h : Inv c m G s) (limit : Int) :
    s.bus.recent limit = s.published.drop (s.published.length - min limit.toNat c) := by
  rw [Bus.recent]
  split
  · next hle =>
    rw [Int.toNat_of_nonpos hle, Nat.zero_min, Nat.sub_zero, List.drop_length]
  · rw [h.buffer, List.drop_drop, List.length_drop]
    congr 1
    omega

/-- Whatever is published, registered, discarded and read in between: publishing does not raise, the
latest records are at hand, every subscriber gets what is published in order and loses its oldest
records only, and an event stream puts out published records in order and none of them twice. -/
theorem events_bus_feeds (capacity maxsize : Nat) {s : BusRun α}
    (h : Reach step Free (start capacity maxsize) s) :
    (∀ record, ∃ bus, s.bus.publish record = some bus) ∧
      (∀ limit : Int, s.bus.recent limit =
        s.published.drop (s.published.length - min limit.toNat capacity)) ∧
      s.readers.length = s.bus.subscriptions.length ∧
      (∀ (i : Nat) (sub : Subscription α) (reader : Reader α),
        s.bus.subscriptions[i]? = some sub → s.readers[i]? = some reader →
          Delivered maxsize s.published sub reader) ∧
      ∀ stream ∈ s.streams, stream.output.Sublist s.published := by
  have hinv : ∃ got, Inv capacity maxsize got s := by
    apply h.invariant (P := fun s => ∃ got, Inv capacity maxsize got s)
      ⟨_, inv_start capacity maxsize⟩
    rintro u a v ⟨got, hu⟩ - hs
    exact hu.step hs
  obtain ⟨got, hinv⟩ := hinv
  refine ⟨fun record => ⟨_, publish_eq record hinv.bounded⟩, hinv.recent, hinv.readers,
    fun i sub reader hsub hr => (hinv.accounts i sub reader hsub hr).delivered,
    fun stream hst => ?_⟩
  obtain ⟨places, hord, hout, -⟩ := hinv.streams stream hst
  exact hout.sublist hord

/-- A stream replays one record and misses the next, and a slow subscriber loses its oldest one. -/
theorem events_bus_feeds_slow :
    ∃ s : BusRun Nat, run (guarded step Free) (start 1 1)
        [.publish 0, .openStream, .subscribe, .resume 0, .resume 0, .publish 1, .resume 0,
          .publish 2, .resume 0, .answer 0 false] = some s ∧
      (∀ stream ∈ s.streams, stream.output.Sublist s.published) ∧
      s.streams.map EventStream.output = [[0, 2]] ∧
      s.bus.subscriptions.map Subscription.queue = [[2], []] := by
  have hrun : run (guarded step Free) (start 1 1)
      [.publish 0, .openStream, .subscribe, .resume 0, .resume 0, .publish 1, .resume 0,
        .publish 2, .resume 0, .answer 0 false] = some _ := rfl
  exact ⟨_, hrun, (events_bus_feeds 1 1 (Reach.of_run hrun)).2.2.2.2, rfl, rfl⟩

end BusRun
end MediaScanMonitor
