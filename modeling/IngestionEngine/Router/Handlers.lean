import IngestionEngine.Event.Event
import IngestionEngine.Router.Http
import IngestionEngine.Worker.Pool

/-!
# The ingestion handlers

`handleSingleEvent` and `handleBatchEvents`, each cut at its call of the pool: what it does
before, which ends in a response or in events to enqueue, and the response it writes after.
-/

namespace IngestionEngine.Router

open Systems Event Worker

/-- The body of a request. -/
inductive Upload where
  /-- Reading it fails. -/
  | unreadable
  /-- It has this many bytes, and is this value, if it is JSON. -/
  | text (size : Nat) (value : Option Json)

/-- `io.ReadAll` of a body behind a `http.MaxBytesReader`. -/
def Upload.readAll (limit : Nat) : Upload → Option (Option Json)
  | .unreadable => none
  | .text size value => if size ≤ limit then some value else none

/-- The text of an error of `ParseEvent`; `describe` gives the texts of `encoding/json`. -/
def parseErrorText (describe : DecodeError → String) : ParseError → String
  | .decode error => describe error
  | .validate error => error.text

/-- `handleSingleEvent` up to `Enqueue`. -/
def singleEvent (describe : DecodeError → String) (upload : Upload) (now : Now) :
    Except Response TelemetryEvent :=
  match upload.readAll (256 * 1024) with
  | none =>
    .error (.error "\x7b\"error\":\"payload too large or unreadable\"\x7d" 400)
  | some data =>
    match parseEvent data now with
    | .error error =>
      .error (.json 400 (.obj [("details", .str (parseErrorText describe error)),
        ("error", .str "validation_failed")]) [])
    | .ok ev => .ok ev

/-- `handleSingleEvent` from `Enqueue` on. -/
def singleAnswer (ev : TelemetryEvent) : Option EnqueueError → Response
  | some _ =>
    .json 503 (.obj [("error", .str "queue_saturated"),
      ("message", .str "Worker channel full. Ingestion backpressure engaged.")]) []
  | none => .json 202 (.obj [("status", .str "accepted"), ("trace_id", .str ev.traceID)]) []

/-- `handleBatchEvents` up to `EnqueueBatch`. -/
def batchEvents (upload : Upload) : Except Response (List TelemetryEvent) :=
  match upload.readAll (10 * 1024 * 1024) with
  | none => .error (.error "\x7b\"error\":\"batch payload too large\"\x7d" 400)
  | some data =>
    match unmarshalBatch data with
    | .error _ => .error (.json 400 (.obj [("error", .str "invalid_batch_json")]) [])
    | .ok events => .ok events

/-- `handleBatchEvents` from `EnqueueBatch` on. -/
def batchAnswer (total accepted dropped : Nat) : Response :=
  .json (if 0 < dropped ∧ accepted = 0 then 503 else 202)
    (.obj [("accepted", .num (.int accepted)), ("dropped", .num (.int dropped)),
      ("status", .str "processed"), ("total", .num (.int total))]) []

/-- A single event that is enqueued is valid. -/
theorem singleEvent_valid {describe : DecodeError → String} {upload : Upload} {now : Now}
    {ev : TelemetryEvent} (handled : singleEvent describe upload now = .ok ev) : ev.Valid := by
  unfold singleEvent at handled
  split at handled
  · contradiction
  split at handled
  · contradiction
  rename_i parsed
  obtain rfl := Except.ok.inj handled
  exact parseEvent_valid parsed

end IngestionEngine.Router
