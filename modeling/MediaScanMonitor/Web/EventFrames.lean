import MediaScanMonitor.Lib.EventSource
import MediaScanMonitor.Lib.Json
import MediaScanMonitor.Web.EventStream

/-!
# Event frames

`_sse_frame` and `_raw_sse_frame` of `web/pages.py`, and what a browser makes of the streams: the
scripts of `dashboard.html` and `events.html` parse the data of each message as JSON.
-/

namespace MediaScanMonitor
open Text Json Transition

/-- A type of records that is written as JSON. -/
structure RecordFeed (α : Type) where
  /-- `dataclasses.asdict`. -/
  asdict : α → Value
  /-- The record of a parsed object. -/
  ofJson : Value → Option α
  read : ∀ record, ofJson (asdict record) = some record

namespace RecordFeed
variable {α : Type}

/-- The body that `_sse_frame` and `_raw_sse_frame` share. -/
def frame (feed : RecordFeed α) (record : α) : Str :=
  "data: ".toList ++ dumps (feed.asdict record) ++ "\n\n".toList

/-- The records that the page gets from a text: `none` where the script would raise. -/
def received (feed : RecordFeed α) (text : Str) : List (Option α) :=
  (EventSource.onmessage text).map fun data => (loads data).bind feed.ofJson

lemma oneLine_dumps (v : Value) : EventSource.OneLine (dumps v) := by
  intro c hc
  have hprintable := List.all_eq_true.1 (printable_dumps v) c hc
  constructor <;>
  · rintro rfl
    cases hprintable

/-- Whatever the texts of the records are, the page gets these records, in order. -/
theorem received_frames (feed : RecordFeed α) (records : List α) (record : α) {n : Nat}
    (hn : n < (feed.frame record).length) :
    feed.received (records.flatMap feed.frame ++ (feed.frame record).take n) =
      records.map some := by
  have hmessages := EventSource.onmessage_frames (records.map fun r => dumps (feed.asdict r))
    (fun p hp => by
      obtain ⟨r, -, rfl⟩ := List.mem_map.1 hp
      exact oneLine_dumps _) (oneLine_dumps (feed.asdict record)) hn
  have hframes : records.flatMap feed.frame =
      (records.map fun r => dumps (feed.asdict r)).flatMap EventSource.frame := by
    rw [List.flatMap_map]
    rfl
  have hpart : (feed.frame record).take n =
      (EventSource.frame (dumps (feed.asdict record))).take n := rfl
  rw [received, hframes, hpart, hmessages, List.map_map]
  apply List.map_congr_left
  intro r _
  show (loads (dumps (feed.asdict r))).bind feed.ofJson = some r
  rw [loads_dumps]
  exact feed.read r

end RecordFeed

/-! ## Members -/

/-- A text or `None`. -/
def optionalText : Option Str → Value
  | none => .null
  | some s => .string s

def optionalNumber : Option Nat → Value
  | none => .null
  | some n => .number (.ofNat n)

def readText : Value → Option Str
  | .string s => some s
  | _ => none

def readBool : Value → Option Bool
  | .bool b => some b
  | _ => none

def readNumber : Value → Option Nat
  | .number n => n.toNat?
  | _ => none

/-- A member that may be `null`. -/
def readOptional {α : Type} (read : Value → Option α) : Value → Option (Option α)
  | .null => some none
  | v => (read v).map some

lemma readNumber_ofNat (n : Nat) : readNumber (.number (.ofNat n)) = some n :=
  toNat?_ofNat n

lemma readOptional_text (s : Option Str) : readOptional readText (optionalText s) = some s := by
  cases s <;> rfl

lemma readOptional_number (n : Option Nat) :
    readOptional readNumber (optionalNumber n) = some n := by
  cases n with
  | none => rfl
  | some n =>
    show (readNumber (.number (.ofNat n))).map some = some (some n)
    rw [readNumber_ofNat]
    rfl

/-! ## Records -/

def EventRecord.asdict (record : EventRecord) : Value :=
  .object
    [("ts".toList, .string record.ts),
      ("server_id".toList, .number (.ofNat record.serverId)),
      ("server_name".toList, .string record.serverName),
      ("scan_mode".toList, .string record.scanMode),
      ("scan_key".toList, .string record.scanKey),
      ("scan_path".toList, optionalText record.scanPath),
      ("library_id".toList, optionalText record.libraryId),
      ("event_type".toList, .string record.eventType),
      ("file_path".toList, .string record.filePath),
      ("ok".toList, .bool record.ok),
      ("status_code".toList, optionalNumber record.statusCode),
      ("detail".toList, .string record.detail)]

def EventRecord.ofJson (v : Value) : Option EventRecord := do
  let ts ← v.get "ts".toList >>= readText
  let serverId ← v.get "server_id".toList >>= readNumber
  let serverName ← v.get "server_name".toList >>= readText
  let scanMode ← v.get "scan_mode".toList >>= readText
  let scanKey ← v.get "scan_key".toList >>= readText
  let scanPath ← v.get "scan_path".toList >>= readOptional readText
  let libraryId ← v.get "library_id".toList >>= readOptional readText
  let eventType ← v.get "event_type".toList >>= readText
  let filePath ← v.get "file_path".toList >>= readText
  let ok ← v.get "ok".toList >>= readBool
  let statusCode ← v.get "status_code".toList >>= readOptional readNumber
  let detail ← v.get "detail".toList >>= readText
  pure ⟨ts, serverId, serverName, scanMode, scanKey, scanPath, libraryId, eventType, filePath, ok,
    statusCode, detail⟩

def RawEventRecord.asdict (record : RawEventRecord) : Value :=
  .object
    [("ts".toList, .string record.ts),
      ("event_type".toList, .string record.eventType),
      ("path".toList, .string record.path),
      ("is_dir".toList, .bool record.isDir),
      ("matched".toList, .bool record.matched)]

def RawEventRecord.ofJson (v : Value) : Option RawEventRecord := do
  let ts ← v.get "ts".toList >>= readText
  let eventType ← v.get "event_type".toList >>= readText
  let path ← v.get "path".toList >>= readText
  let isDir ← v.get "is_dir".toList >>= readBool
  let matched ← v.get "matched".toList >>= readBool
  pure ⟨ts, eventType, path, isDir, matched⟩

lemma EventRecord.ofJson_asdict (record : EventRecord) :
    EventRecord.ofJson record.asdict = some record := by
  have hid := readNumber_ofNat record.serverId
  have hpath := readOptional_text record.scanPath
  have hlibrary := readOptional_text record.libraryId
  have hstatus := readOptional_number record.statusCode
  simp only [EventRecord.ofJson, EventRecord.asdict, Value.get_object, List.reverse_cons,
    List.reverse_nil, List.nil_append, List.cons_append, List.find?_cons, String.toList_inj,
    String.reduceEq, decide_true, decide_false, Option.map_some, Option.bind_eq_bind,
    Option.bind_some, readText, readBool, hid, hpath, hlibrary, hstatus]
  rfl

lemma RawEventRecord.ofJson_asdict (record : RawEventRecord) :
    RawEventRecord.ofJson record.asdict = some record := by
  simp only [RawEventRecord.ofJson, RawEventRecord.asdict, Value.get_object, List.reverse_cons,
    List.reverse_nil, List.nil_append, List.cons_append, List.find?_cons, String.toList_inj,
    String.reduceEq, decide_true, decide_false, Option.map_some, Option.bind_eq_bind,
    Option.bind_some, readText, readBool]
  rfl

def eventFeed : RecordFeed EventRecord :=
  ⟨EventRecord.asdict, EventRecord.ofJson, EventRecord.ofJson_asdict⟩

def rawEventFeed : RecordFeed RawEventRecord :=
  ⟨RawEventRecord.asdict, RawEventRecord.ofJson, RawEventRecord.ofJson_asdict⟩

/-- `_sse_frame`. -/
def sseFrame (record : EventRecord) : Str :=
  eventFeed.frame record

/-- `_raw_sse_frame`. -/
def rawSseFrame (record : RawEventRecord) : Str :=
  rawEventFeed.frame record

namespace BusRun

/-- A page that follows a stream, after any run of the bus. -/
lemma feed_received {α : Type} (feed : RecordFeed α) (capacity maxsize : Nat) {s : BusRun α}
    (h : Reach step Free (start capacity maxsize) s) :
    ∀ stream ∈ s.streams, stream.output.Sublist s.published ∧
      ∀ record n, n < (feed.frame record).length →
        feed.received (stream.output.flatMap feed.frame ++ (feed.frame record).take n) =
          stream.output.map some := by
  intro stream hstream
  refine ⟨(events_bus_feeds capacity maxsize h).2.2.2.2 stream hstream, fun record n hn => ?_⟩
  exact feed.received_frames stream.output record hn

/-- In every run of the two buses, the pages get what their streams have put out: published records
in order and none of them twice, with all their fields, whatever characters these hold, and nothing
of a frame that has not arrived as a whole. -/
theorem event_pages_received (capacity maxsize : Nat) {s : BusRun EventRecord}
    {r : BusRun RawEventRecord} (h : Reach step Free (start capacity maxsize) s)
    (hr : Reach step Free (start capacity maxsize) r) :
    (∀ stream ∈ s.streams, stream.output.Sublist s.published ∧
      ∀ record n, n < (sseFrame record).length →
        eventFeed.received (stream.output.flatMap sseFrame ++ (sseFrame record).take n) =
          stream.output.map some) ∧
    ∀ stream ∈ r.streams, stream.output.Sublist r.published ∧
      ∀ record n, n < (rawSseFrame record).length →
        rawEventFeed.received (stream.output.flatMap rawSseFrame ++ (rawSseFrame record).take n) =
          stream.output.map some :=
  ⟨feed_received eventFeed capacity maxsize h, feed_received rawEventFeed capacity maxsize hr⟩

/-- A path with a line feed and a quotation mark on its way to a page. -/
def oddRaw : RawEventRecord :=
  ⟨"2026-06-20".toList, "created".toList, "/m/a\n\ndata: \"é".toList, false, true⟩

def oddEvent : EventRecord :=
  ⟨"2026-06-20".toList, 1, "\\ 😀".toList, "targeted".toList, "/m".toList, some "/m".toList, none,
    "created".toList, oddRaw.path, false, some 503, "503\r\nid: 7".toList⟩

/-- A frame and a part of the next one have arrived. -/
theorem event_pages_received_odd :
    ∃ (s : BusRun EventRecord) (r : BusRun RawEventRecord),
      run (guarded step Free) (start 200 100) [.publish oddEvent, .openStream, .resume 0,
        .resume 0] = some s ∧
      run (guarded step Free) (start 200 100) [.publish oddRaw, .openStream, .resume 0,
        .resume 0] = some r ∧
      s.streams.map EventStream.output = [[oddEvent]] ∧
      r.streams.map EventStream.output = [[oddRaw]] ∧
      (∀ stream ∈ s.streams, ∀ record n, n < (sseFrame record).length →
        eventFeed.received (stream.output.flatMap sseFrame ++ (sseFrame record).take n) =
          stream.output.map some) ∧
      ∀ stream ∈ r.streams, ∀ record n, n < (rawSseFrame record).length →
        rawEventFeed.received (stream.output.flatMap rawSseFrame ++ (rawSseFrame record).take n) =
          stream.output.map some := by
  have hs : run (guarded step Free) (start 200 100)
      [.publish oddEvent, .openStream, .resume 0, .resume 0] = some _ := rfl
  have hr : run (guarded step Free) (start 200 100)
      [.publish oddRaw, .openStream, .resume 0, .resume 0] = some _ := rfl
  have hreceived := event_pages_received 200 100 (Reach.of_run hs) (Reach.of_run hr)
  exact ⟨_, _, hs, hr, rfl, rfl, fun stream hs => (hreceived.1 stream hs).2,
    fun stream hs => (hreceived.2 stream hs).2⟩

end BusRun
end MediaScanMonitor
