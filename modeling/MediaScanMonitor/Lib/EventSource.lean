import MediaScanMonitor.Lib.Text

/-!
# Event streams

The format `text/event-stream` as a browser interprets it, character by character: lines end with a
line feed, a carriage return or both, a line is a field or a comment, and an empty line dispatches
what has been collected.
-/

namespace EventSource
open Text

/-- A `MessageEvent`. -/
structure Message where
  type : Str
  data : Str
  lastEventId : Str
deriving DecidableEq

/-- A stream that is being interpreted. -/
structure Stream where
  /-- A character has been read. -/
  started : Bool
  /-- The last character was a carriage return. -/
  cr : Bool
  line : Str
  data : Str
  event : Str
  id : Str
  messages : List Message
deriving DecidableEq

namespace Stream

/-- A field is processed; others than these, and `retry`, change no message. -/
def field (s : Stream) (name value : Str) : Stream :=
  if name = "event".toList then { s with event := value }
  else if name = "data".toList then { s with data := s.data ++ value ++ ['\n'] }
  else if name = "id".toList then
    if Char.ofNat 0 ∈ value then s else { s with id := value }
  else s

/-- The event is dispatched; one without data is not. -/
def dispatch (s : Stream) : Stream :=
  if s.data = [] then { s with event := [] }
  else
    { s with
      data := []
      event := []
      messages := s.messages ++
        [⟨if s.event = [] then "message".toList else s.event, s.data.dropLast, s.id⟩] }

/-- One blank at the front is removed. -/
def dropBlank : Str → Str
  | ' ' :: value => value
  | value => value

/-- The line is complete. -/
def endLine (s : Stream) : Stream :=
  match s.line with
  | [] => s.dispatch
  | ':' :: _ => { s with line := [] }
  | line =>
    { s with line := [] }.field (line.takeWhile (· ≠ ':'))
      (dropBlank ((line.dropWhile (· ≠ ':')).drop 1))

/-- The next character. -/
def read (s : Stream) (c : Char) : Stream :=
  if c = '\n' then
    -- a line feed behind a carriage return ends no further line
    if s.cr then { s with started := true, cr := false }
    else { s with started := true }.endLine
  else if c = '\r' then { { s with started := true }.endLine with cr := true }
  -- a byte order mark at the front is ignored
  else if c.toNat = 0xfeff ∧ s.started = false then { s with started := true }
  else { s with started := true, cr := false, line := s.line ++ [c] }

def run (s : Stream) (text : Str) : Stream :=
  text.foldl read s

end Stream

def start : Stream :=
  ⟨false, false, [], [], [], [], []⟩

/-- What the handler `onmessage` is given for a text. -/
def onmessage (text : Str) : List Str :=
  ((start.run text).messages.filter fun m => m.type = "message".toList).map Message.data

/-- A frame with one line of data. -/
def frame (payload : Str) : Str :=
  "data: ".toList ++ payload ++ "\n\n".toList

/-- Nothing ends a line in this text. -/
def OneLine (s : Str) : Prop :=
  ∀ c ∈ s, c ≠ '\n' ∧ c ≠ '\r'

namespace Stream
variable {s : Stream} {payload : Str}

lemma run_append (s : Stream) (text text' : Str) :
    s.run (text ++ text') = (s.run text).run text' :=
  List.foldl_append

/-- What stands on a line is collected, once a first character has been read. -/
lemma run_oneLine {text : Str} (h : OneLine text) (hstarted : s.started = true)
    (hcr : s.cr = false) : s.run text = { s with line := s.line ++ text } := by
  induction text generalizing s with
  | nil =>
    rw [List.append_nil]
    rfl
  | cons c text ih =>
    obtain ⟨hn, hr⟩ := h c List.mem_cons_self
    have hread : s.read c = { s with line := s.line ++ [c] } := by
      rw [read, if_neg hn, if_neg hr, if_neg (by simp [hstarted]), ← hstarted, ← hcr]
    have htail := ih (s := { s with line := s.line ++ [c] })
      (fun d hd => h d (List.mem_cons_of_mem c hd)) hstarted hcr
    show (s.read c).run text = _
    rw [hread, htail]
    simp

/-- Between two frames. -/
structure Ready (s : Stream) : Prop where
  cr : s.cr = false
  line : s.line = []
  data : s.data = []
  event : s.event = []
  id : s.id = []

lemma oneLine_data (h : OneLine payload) : OneLine ("ata: ".toList ++ payload) := by
  intro c hc
  rcases List.mem_append.1 hc with hc | hc
  · have hall : "ata: ".toList.all (fun c => c ≠ '\n' ∧ c ≠ '\r') = true := by decide
    exact of_decide_eq_true (List.all_eq_true.1 hall c hc)
  · exact h c hc

/-- The line of a frame, or a part of it. -/
lemma Ready.run_line (hs : s.Ready) {text : Str} (h : OneLine text) :
    s.run ('d' :: text) = { s with started := true, line := 'd' :: text } := by
  have hread : s.read 'd' = { s with started := true, line := ['d'] } := by
    rw [read, if_neg (by decide), if_neg (by decide), if_neg (by simp), hs.line, ← hs.cr]
    rfl
  have htail := run_oneLine (s := { s with started := true, line := ['d'] }) h rfl hs.cr
  show (s.read 'd').run text = _
  rw [hread, htail]
  rfl

/-- A line with the field `data`. -/
lemma endLine_data (h : s.line = 'd' :: ("ata: ".toList ++ payload)) :
    s.endLine = { s with line := [], data := s.data ++ payload ++ ['\n'] } := by
  rw [endLine, h]
  rfl

/-- The end of the line adds to the data. -/
lemma Ready.run_data (hs : s.Ready) (h : OneLine payload) :
    s.run ("data: ".toList ++ payload ++ ['\n']) =
      { s with started := true, data := payload ++ ['\n'] } := by
  have hline := hs.run_line (oneLine_data h)
  rw [run_append]
  show ((s.run ('d' :: ("ata: ".toList ++ payload))).read '\n') = _
  rw [hline, read, if_pos rfl, hs.cr, if_neg (by decide), endLine_data rfl, hs.line, hs.data]
  rfl

/-- A frame is one message. -/
lemma Ready.run_frame (hs : s.Ready) (h : OneLine payload) :
    s.run (frame payload) =
      { s with
        started := true
        messages := s.messages ++ [⟨"message".toList, payload, []⟩] } := by
  have hdata := hs.run_data h
  have hsplit : frame payload = "data: ".toList ++ payload ++ (['\n'] ++ ['\n']) := rfl
  rw [hsplit, ← List.append_assoc, run_append, hdata]
  show Stream.read _ '\n' = _
  rw [read, if_pos rfl, hs.cr, if_neg (by decide)]
  simp [endLine, dispatch, hs.line, hs.event, hs.id, hs.data]

lemma Ready.push (hs : s.Ready) (messages : List Message) :
    ({ s with started := true, messages := messages } : Stream).Ready :=
  ⟨hs.cr, hs.line, hs.data, hs.event, hs.id⟩

/-- A frame that is not complete is no message. -/
lemma Ready.run_part (hs : s.Ready) (h : OneLine payload) {n : Nat}
    (hn : n < (frame payload).length) : (s.run ((frame payload).take n)).messages = s.messages := by
  have hsplit : frame payload = 'd' :: ("ata: ".toList ++ payload) ++ ['\n', '\n'] := rfl
  rw [hsplit] at hn ⊢
  simp only [List.length_append, List.length_cons, List.length_nil] at hn
  rcases Nat.lt_or_ge n ('d' :: ("ata: ".toList ++ payload) ++ ['\n']).length with hlt | hge
  · -- the line is not complete
    rw [List.take_append_of_le_length (by simp at hlt ⊢; omega)]
    cases n with
    | zero => rfl
    | succ n =>
      have hpart : OneLine (("ata: ".toList ++ payload).take n) :=
        fun c hc => oneLine_data h c (List.mem_of_mem_take hc)
      rw [List.take_succ_cons, hs.run_line hpart]
  · -- it is, but there is no empty line behind it
    have hall : n = ("data: ".toList ++ payload ++ ['\n']).length := by
      simp at hge hn ⊢
      omega
    have hline : 'd' :: ("ata: ".toList ++ payload) ++ ['\n', '\n'] =
        "data: ".toList ++ payload ++ ['\n'] ++ ['\n'] :=
      List.append_cons _ '\n' ['\n']
    rw [hline, hall, List.take_left', hs.run_data h]
    rfl

/-- Frames after each other are as many messages. -/
lemma Ready.run_frames (payloads : List Str) (h : ∀ p ∈ payloads, OneLine p) (hs : s.Ready) :
    (s.run (payloads.flatMap frame)).Ready ∧ (s.run (payloads.flatMap frame)).messages =
      s.messages ++ payloads.map fun p => ⟨"message".toList, p, []⟩ := by
  induction payloads generalizing s with
  | nil => exact ⟨hs, (List.append_nil _).symm⟩
  | cons p payloads ih =>
    have hp := h p List.mem_cons_self
    have hps : ∀ q ∈ payloads, OneLine q := fun q hq => h q (List.mem_cons_of_mem p hq)
    rw [List.flatMap_cons, run_append, hs.run_frame hp]
    obtain ⟨hready, hmessages⟩ :=
      ih hps (hs.push (s.messages ++ [⟨"message".toList, p, []⟩]))
    refine ⟨hready, ?_⟩
    rw [hmessages, List.map_cons, List.append_assoc]
    rfl

end Stream

/-- The handler is given the payloads of the frames in order, whatever part of another one has
arrived. -/
theorem onmessage_frames (payloads : List Str) (h : ∀ p ∈ payloads, OneLine p) {payload : Str}
    (hp : OneLine payload) {n : Nat} (hn : n < (frame payload).length) :
    onmessage (payloads.flatMap frame ++ (frame payload).take n) = payloads := by
  have hready : start.Ready := ⟨rfl, rfl, rfl, rfl, rfl⟩
  obtain ⟨hready, hmessages⟩ := hready.run_frames payloads h
  rw [onmessage, Stream.run_append, hready.run_part hp hn, hmessages]
  simp [start, List.filter_map, Function.comp_def]

end EventSource
