import IngestionEngine.Systems.Json
import IngestionEngine.Event.Timestamp

/-!
# Telemetry events

`event.TelemetryEvent`, what `json.Unmarshal` stores into it, and `Validate`. Member names
match without regard to case, unknown members are skipped, and `null` leaves a field as it
is (the payload excepted). A value of the wrong type leaves its field as it is too; the first such
error is saved, and returned when the decoding has come to its end. An error of
`Time.UnmarshalJSON` ends the decoding at once, so it is returned whatever was saved before it.
-/

namespace IngestionEngine.Event

open Systems

/-- `TelemetryEvent` -/
structure TelemetryEvent where
  /-- `json:"id"` -/
  id : String
  /-- `json:"trace_id"` -/
  traceID : String
  /-- `json:"span_id"` -/
  spanID : String
  /-- `json:"service"` -/
  service : String
  /-- `json:"host"` -/
  host : String
  /-- `json:"level"` -/
  level : String
  /-- `json:"message"` -/
  message : String
  /-- `json:"payload"`, a map that may be nil. -/
  payload : Option (List (String × Json))
  /-- `json:"timestamp"` -/
  timestamp : Time
  /-- `json:"latency_ns"` -/
  latencyNs : Int

/-- `TelemetryEvent{}` -/
def TelemetryEvent.zero : TelemetryEvent where
  id := ""
  traceID := ""
  spanID := ""
  service := ""
  host := ""
  level := ""
  message := ""
  payload := none
  timestamp := .zero
  latencyNs := 0

/-- `LevelInfo` -/
def levelInfo : String := "INFO"

/-- The errors of `json.Unmarshal`; their texts are those of `encoding/json` and `time`. -/
inductive DecodeError where
  /-- The text is not JSON. -/
  | syntaxError
  /-- `UnmarshalTypeError` -/
  | type
  /-- The error of `Time.UnmarshalJSON`. -/
  | time
  deriving DecidableEq, Repr

/-- Go on after a value was decoded: an error of `UnmarshalJSON` ends the decoding, any other one is
saved (`saveError`), and returned unless such an error follows. -/
def goOn {α β : Type} (old : α) (decoded : Except DecodeError α)
    (rest : α → Except DecodeError β) : Except DecodeError β :=
  match decoded with
  | .ok new => rest new
  | .error .time => .error .time
  | .error saved =>
    match rest old with
    | .error .time => .error .time
    | .error _ | .ok _ => .error saved

/-- The errors of `Validate`. -/
inductive ValidationError where
  /-- The service is empty. -/
  | service
  /-- The message is empty. -/
  | message
  deriving DecidableEq, Repr

/-- The text of an error of `Validate`. -/
def ValidationError.text : ValidationError → String
  | .service => "missing required field: service"
  | .message => "missing required field: message"

/-- The fields of the event that JSON can set. -/
inductive Field where
  /-- `ID` -/
  | id
  /-- `TraceID` -/
  | traceID
  /-- `SpanID` -/
  | spanID
  /-- `Service` -/
  | service
  /-- `Host` -/
  | host
  /-- `Level` -/
  | level
  /-- `Message` -/
  | message
  /-- `Payload` -/
  | payload
  /-- `Timestamp` -/
  | timestamp
  /-- `LatencyNs` -/
  | latencyNs
  deriving DecidableEq, Repr

/-- The names of the fields in JSON. -/
def fieldNames : List (String × Field) :=
  [("id", .id), ("trace_id", .traceID), ("span_id", .spanID), ("service", .service),
    ("host", .host), ("level", .level), ("message", .message), ("payload", .payload),
    ("timestamp", .timestamp), ("latency_ns", .latencyNs)]

/-- `foldRune`, for the runes that fold to a letter of a field name; the long s and the
Kelvin sign are among them. -/
def foldRune (c : Char) : Char :=
  if c = 'ſ' then 'S' else if c = 'K' then 'K' else c.toUpper

/-- `foldName` -/
def foldName (name : String) : String := String.ofList (name.toList.map foldRune)

/-- The field that a member sets: an exact match of the name, or else one that ignores case. -/
def fieldNamed {α : Type} (names : List (String × α)) (name : String) : Option α :=
  match names.find? (fun entry => entry.1 = name) with
  | some entry => some entry.2
  | none =>
    (names.find? (fun entry => foldName entry.1 = foldName name)).map (·.2)

/-- Store a value into a string. -/
def decodeString (old : String) : Json → Except DecodeError String
  | .null => .ok old
  | .str value => .ok value
  | .bool _ | .num _ | .arr _ | .obj _ => .error .type

/-- Store a value into an `int64`. -/
def decodeInt64 (old : Int) : Json → Except DecodeError Int
  | .null => .ok old
  | .num (.int value) =>
    if Int64.minValue.toInt ≤ value ∧ value ≤ Int64.maxValue.toInt then .ok value
    else .error .type
  | .num (.decimal _) | .bool _ | .str _ | .arr _ | .obj _ => .error .type

/-- Store a value into a `time.Time`. -/
def decodeTime (old : Time) : Json → Except DecodeError Time
  | .null => .ok old
  | .str value =>
    match readTime value with
    | some time => .ok time
    | none => .error .time
  | .bool _ | .num _ | .arr _ | .obj _ => .error .time

/-- The number is in the range of a `float64`. -/
def fitsFloat64 (value : ℚ) : Bool :=
  -(2 ^ 1024 - 2 ^ 970) < value && value < 2 ^ 1024 - 2 ^ 970

mutual

/-- The value can be stored into an `interface{}`: its numbers are in range. -/
def storable : Json → Bool
  | .num (.int value) => fitsFloat64 value
  | .num (.decimal value) => fitsFloat64 value
  | .arr items => storableItems items
  | .obj members => storableMembers members
  | .null | .bool _ | .str _ => true

/-- So can each of several values. -/
def storableItems : List Json → Bool
  | [] => true
  | item :: rest => storable item && storableItems rest

/-- So can the value of each of several members. -/
def storableMembers : List (String × Json) → Bool
  | [] => true
  | (_, value) :: rest => storable value && storableMembers rest

end

/-- Assign to a key of a map. -/
def assign (key : String) (value : Json) : List (String × Json) → List (String × Json)
  | [] => [(key, value)]
  | entry :: rest =>
    if entry.1 = key then (key, value) :: rest else entry :: assign key value rest

/-- Store a value into the payload; an object is merged into a map that exists. -/
def decodePayload (old : Option (List (String × Json))) :
    Json → Except DecodeError (Option (List (String × Json)))
  | .null => .ok none
  | .obj members =>
    if storableMembers members then
      .ok (some (members.foldl (fun map entry => assign entry.1 entry.2 map) (old.getD [])))
    else .error .type
  | .bool _ | .num _ | .str _ | .arr _ => .error .type

/-- Store the value of one member. -/
def TelemetryEvent.setField (ev : TelemetryEvent) (value : Json) :
    Field → Except DecodeError TelemetryEvent
  | .id => (decodeString ev.id value).map fun id => { ev with id }
  | .traceID => (decodeString ev.traceID value).map fun traceID => { ev with traceID }
  | .spanID => (decodeString ev.spanID value).map fun spanID => { ev with spanID }
  | .service => (decodeString ev.service value).map fun service => { ev with service }
  | .host => (decodeString ev.host value).map fun host => { ev with host }
  | .level => (decodeString ev.level value).map fun level => { ev with level }
  | .message => (decodeString ev.message value).map fun message => { ev with message }
  | .payload => (decodePayload ev.payload value).map fun payload => { ev with payload }
  | .timestamp => (decodeTime ev.timestamp value).map fun timestamp => { ev with timestamp }
  | .latencyNs => (decodeInt64 ev.latencyNs value).map fun latencyNs => { ev with latencyNs }

/-- Store the members of an object, one after the other. -/
def TelemetryEvent.setFields (ev : TelemetryEvent) :
    List (String × Json) → Except DecodeError TelemetryEvent
  | [] => .ok ev
  | (name, value) :: rest =>
    match fieldNamed fieldNames name with
    | none => ev.setFields rest
    | some field => goOn ev (ev.setField value field) fun ev => ev.setFields rest

/-- Store a value into an event. -/
def TelemetryEvent.decode (ev : TelemetryEvent) : Json → Except DecodeError TelemetryEvent
  | .null => .ok ev
  | .obj members => ev.setFields members
  | .bool _ | .num _ | .str _ | .arr _ => .error .type

/-- The error of a time that does not parse is returned, also after a type mismatch. -/
example : (TelemetryEvent.zero.decode
      (.obj [("service", .bool true), ("timestamp", .str "now"), ("host", .bool true)])).map
    TelemetryEvent.service = .error .time := by rfl

/-- `Validate`, with the event as it leaves it. -/
def TelemetryEvent.validate (e : TelemetryEvent) (now : Now) :
    Except ValidationError TelemetryEvent :=
  if e.service = "" then .error .service
  else if e.message = "" then .error .message
  else
    let e := if e.timestamp.isZero then { e with timestamp := now.time } else e
    let e := if e.level = "" then { e with level := levelInfo } else e
    .ok e

/-- The errors of `ParseEvent`. -/
inductive ParseError where
  /-- From `json.Unmarshal`. -/
  | decode (error : DecodeError)
  /-- From `Validate`. -/
  | validate (error : ValidationError)
  deriving DecidableEq, Repr

/-- `ParseEvent`, on a text that is some JSON value or none. -/
def parseEvent (data : Option Json) (now : Now) : Except ParseError TelemetryEvent :=
  match data with
  | none => .error (.decode .syntaxError)
  | some value =>
    match TelemetryEvent.zero.decode value with
    | .error error => .error (.decode error)
    | .ok ev =>
      match ev.validate now with
      | .error error => .error (.validate error)
      | .ok ev => .ok ev

/-- A slice of events with its backing array: the elements past the length are kept, and
seen again when the slice grows over them. -/
structure EventSlice where
  /-- The backing array, as far as it was ever used. -/
  backing : List TelemetryEvent
  /-- The length. -/
  length : Nat

/-- The elements of the slice. -/
def EventSlice.events (slice : EventSlice) : List TelemetryEvent :=
  slice.backing.take slice.length

/-- Store each item into the element at its place, or into a new one. -/
def decodeItems : List TelemetryEvent → List Json → Except DecodeError (List TelemetryEvent)
  | backing, [] => .ok backing
  | backing, item :: rest =>
    goOn (backing.headD .zero) ((backing.headD .zero).decode item) fun ev =>
      (decodeItems backing.tail rest).map (ev :: ·)

/-- Store a value into the slice. -/
def EventSlice.decode (slice : EventSlice) : Json → Except DecodeError EventSlice
  | .null => .ok ⟨[], 0⟩
  | .arr [] => .ok ⟨[], 0⟩
  | .arr items =>
    (decodeItems slice.backing items).map fun backing => ⟨backing, items.length⟩
  | .bool _ | .num _ | .str _ | .obj _ => .error .type

/-- Store the members of a batch request, one after the other. -/
def decodeBatch (slice : EventSlice) : List (String × Json) → Except DecodeError EventSlice
  | [] => .ok slice
  | (name, value) :: rest =>
    match fieldNamed [("events", ())] name with
    | none => decodeBatch slice rest
    | some _ => goOn slice (slice.decode value) fun slice => decodeBatch slice rest

/-- The events of a `BatchRequest` that `json.Unmarshal` stores. -/
def unmarshalBatch : Option Json → Except DecodeError (List TelemetryEvent)
  | none => .error .syntaxError
  | some .null => .ok []
  | some (.obj members) => (decodeBatch ⟨[], 0⟩ members).map EventSlice.events
  | some (.bool _) | some (.num _) | some (.str _) | some (.arr _) => .error .type

/-- What `Validate` establishes. -/
structure TelemetryEvent.Valid (e : TelemetryEvent) : Prop where
  /-- The service is named. -/
  service : e.service ≠ ""
  /-- There is a message. -/
  message : e.message ≠ ""
  /-- The time is known. -/
  timestamp : e.timestamp.isZero = false
  /-- There is a level. -/
  level : e.level ≠ ""

instance (e : TelemetryEvent) : Decidable e.Valid :=
  decidable_of_iff (e.service ≠ "" ∧ e.message ≠ "" ∧ e.timestamp.isZero = false ∧ e.level ≠ "")
    ⟨fun h => ⟨h.1, h.2.1, h.2.2.1, h.2.2.2⟩,
      fun h => ⟨h.service, h.message, h.timestamp, h.level⟩⟩

/-- `Validate` establishes it. -/
theorem validate_valid {e after : TelemetryEvent} {now : Now}
    (validated : e.validate now = .ok after) : after.Valid := by
  unfold TelemetryEvent.validate at validated
  split at validated
  · contradiction
  rename_i service
  split at validated
  · contradiction
  rename_i message
  obtain rfl := Except.ok.inj validated
  have levelled : levelInfo ≠ "" := by decide
  by_cases zero : e.timestamp.isZero = true
  · by_cases level : e.level = ""
    · simp only [zero, level, if_true]
      exact ⟨service, message, now.nonzero, levelled⟩
    · simp only [zero, level, if_true, if_false]
      exact ⟨service, message, now.nonzero, level⟩
  · have known : e.timestamp.isZero = false := Bool.not_eq_true _ |>.mp zero
    by_cases level : e.level = ""
    · simp only [known, level, Bool.false_eq_true, if_true, if_false]
      exact ⟨service, message, known, levelled⟩
    · simp only [known, level, Bool.false_eq_true, if_false]
      exact ⟨service, message, known, level⟩

/-- An event that is valid passes `Validate` unchanged. -/
theorem Valid.validate {e : TelemetryEvent} (valid : e.Valid) (now : Now) :
    e.validate now = .ok e := by
  simp [TelemetryEvent.validate, valid.service, valid.message, valid.timestamp, valid.level]

/-- What `ParseEvent` returns is valid. -/
theorem parseEvent_valid {data : Option Json} {now : Now} {ev : TelemetryEvent}
    (parsed : parseEvent data now = .ok ev) : ev.Valid := by
  unfold parseEvent at parsed
  split at parsed
  · contradiction
  split at parsed
  · contradiction
  split at parsed
  · contradiction
  rename_i after validated
  obtain rfl := Except.ok.inj parsed
  exact validate_valid validated

end IngestionEngine.Event
