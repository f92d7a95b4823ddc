/-
The messages of the filter channel as text.

`stringifyFilterPayload` writes one JSON object; `parseFilterPayload` reads whatever text
comes over the channel or stands in the hash, perhaps from another version of the worker.
It looks at one property after the other before it takes anything over, and hands on the
values that it found.  JavaScript does not type them, so the change that it returns holds
JSON values here, and a theorem says that they are strings.

The other modules on the filter take the payloads themselves for the messages.  The last
section shows that this is what the text carries.
-/
import XStreamRoll.Json
import XStreamRoll.Processing.EventFilter

namespace XStreamRoll
namespace Processing
namespace RedisFilterConfigStore
namespace Wire

/-! ## JavaScript values -/

/-- A value of `JSON.parse` or a property of one; `none` is `undefined`. -/
abbrev Value := Option Json

/-- `value.key`, which throws on `undefined` and on `null`. -/
def Value.get (key : String) : Value → Except String Value
  | none => .error ("Cannot read properties of undefined (reading '" ++ key ++ "')")
  | some .null => .error ("Cannot read properties of null (reading '" ++ key ++ "')")
  | some value => .ok (value.field key)

/-- What counts as true in a condition. -/
def Value.truthy : Value → Bool
  | none | some .null => false
  | some (.bool b) => b
  | some (.number text) => text ≠ "0"
  | some (.string s) => s ≠ ""
  | some (.array _) | some (.object _) => true

/-- `typeof value === "string"` -/
def Value.isString : Value → Bool
  | some (.string _) => true
  | _ => false

/-- `value === null` -/
def Value.isNull : Value → Bool
  | some .null => true
  | _ => false

/-! ## The two functions -/

/-- The `FilterChange` that the reader builds of the values it finds. -/
inductive ParsedChange where
  | set (streamId : Value) (blockedEventTypes : List Json)
  | clear (streamId : Value)

/-- The config as the JSON value that it is. -/
def configJson (config : FilterConfig) : Json :=
  .object [("blockedEventTypes", .array (config.blockedEventTypes.map .string))]

def payloadJson (payload : WirePayload) : Json :=
  .object [("streamId", .string payload.streamId),
    ("config", (payload.config.map configJson).getD .null), ("from", .string payload.sender)]

def stringifyFilterPayload (streamId : String) (config : Option FilterConfig) (sender : String) :
    String :=
  (payloadJson ⟨streamId, config, sender⟩).stringify

/-- `parse` is `JSON.parse`. -/
def parseFilterPayload (parse : String → Except String Json) (raw : String) :
    Except String (Option ParsedChange) := do
  let parsed : Value := some (← parse raw)
  if !parsed.truthy then return none
  let streamId ← parsed.get "streamId"
  if !streamId.isString then return none
  let config ← parsed.get "config"
  if config.isNull then return some (.clear streamId)
  if !config.truthy then return none
  match ← config.get "blockedEventTypes" with
  | some (.array types) =>
    if types.all fun type => Value.isString (some type) then return some (.set streamId types)
    else return none
  | _ => return none

/-- A change of the declared type. -/
def ParsedChange.of : FilterChange → ParsedChange
  | .set streamId config => .set (some (.string streamId)) (config.blockedEventTypes.map .string)
  | .clear streamId => .clear (some (.string streamId))

/-! ## What is read -/

theorem isString_iff {value : Value} : value.isString = true ↔ ∃ s, value = some (.string s) := by
  constructor
  · intro h
    unfold Value.isString at h
    split at h
    next s => exact ⟨s, rfl⟩
    · cases h
  · rintro ⟨s, rfl⟩
    rfl

/-- A list of strings is one, however it came about. -/
theorem all_isString_iff {types : List Json} :
    (types.all fun type => Value.isString (some type)) = true ↔
      ∃ strings : List String, types = strings.map .string := by
  induction types with
  | nil => exact ⟨fun _ => ⟨[], rfl⟩, fun _ => rfl⟩
  | cons type types ih =>
    rw [List.all_cons, Bool.and_eq_true, ih, isString_iff]
    constructor
    · rintro ⟨⟨s, hs⟩, strings, rfl⟩
      rw [Option.some.injEq] at hs
      exact ⟨s :: strings, by rw [hs, List.map_cons]⟩
    · rintro ⟨strings, hstrings⟩
      cases strings with
      | nil => cases hstrings
      | cons s strings =>
        rw [List.map_cons, List.cons.injEq] at hstrings
        exact ⟨⟨s, by rw [hstrings.1]⟩, strings, hstrings.2⟩

/-- Reading a property of a value that a condition has let through. -/
theorem get_of_truthy {value : Value} (h : value.truthy = true) (key : String) :
    ∃ property, value.get key = .ok property := by
  unfold Value.truthy at h
  split at h
  · cases h
  · cases h
  all_goals exact ⟨_, rfl⟩

/-- Whatever the text says, the reader does not throw and returns nothing but changes. -/
theorem parseFilterPayload_total {parse : String → Except String Json} {raw : String} {v : Json}
    (parsed : parse raw = .ok v) :
    ∃ change : Option FilterChange,
      parseFilterPayload parse raw = .ok (change.map ParsedChange.of) := by
  unfold parseFilterPayload
  simp only [parsed, bind, Except.bind, pure, Except.pure]
  cases object : Value.truthy (some v) with
  | false => exact ⟨none, rfl⟩
  | true =>
    obtain ⟨streamId, hstreamId⟩ := get_of_truthy object "streamId"
    obtain ⟨config, hconfig⟩ := get_of_truthy object "config"
    simp only [hstreamId, hconfig, Bool.not_true, Bool.false_eq_true, if_false]
    cases text : streamId.isString with
    | false => exact ⟨none, rfl⟩
    | true =>
      obtain ⟨s, rfl⟩ := isString_iff.mp text
      simp only [Bool.not_true, Bool.false_eq_true, if_false]
      cases config.isNull with
      | true => exact ⟨some (.clear s), rfl⟩
      | false =>
        simp only [Bool.false_eq_true, if_false]
        cases given : config.truthy with
        | false => exact ⟨none, rfl⟩
        | true =>
          obtain ⟨types, htypes⟩ := get_of_truthy given "blockedEventTypes"
          simp only [htypes, Bool.not_true, Bool.false_eq_true, if_false]
          split
          next types =>
            split
            next all =>
              obtain ⟨strings, rfl⟩ := all_isString_iff.mp all
              exact ⟨some (.set s ⟨strings⟩), rfl⟩
            · exact ⟨none, rfl⟩
          · exact ⟨none, rfl⟩

/-- What was written is read as the change that it stands for. -/
theorem parse_payloadJson {parse : String → Except String Json} {raw : String}
    {payload : WirePayload} (parsed : parse raw = .ok (payloadJson payload)) :
    parseFilterPayload parse raw =
      .ok (some (.of (RedisFilterConfigStore.parseFilterPayload payload))) := by
  obtain ⟨streamId, config, sender⟩ := payload
  unfold parseFilterPayload
  simp only [parsed, bind, Except.bind]
  cases config with
  | none => rfl
  | some config =>
    have strings : ((config.blockedEventTypes.map Json.string).all fun type =>
        Value.isString (some type)) = true := all_isString_iff.mpr ⟨_, rfl⟩
    have truthyPayload :
        Value.truthy (some (payloadJson ⟨streamId, some config, sender⟩)) = true := rfl
    have atStreamId : Value.get "streamId" (some (payloadJson ⟨streamId, some config, sender⟩)) =
        .ok (some (.string streamId)) := rfl
    have atConfig : Value.get "config" (some (payloadJson ⟨streamId, some config, sender⟩)) =
        .ok (some (configJson config)) := rfl
    have isObject : Value.isNull (some (configJson config)) = false ∧
        Value.truthy (some (configJson config)) = true := ⟨rfl, rfl⟩
    have atTypes : Value.get "blockedEventTypes" (some (configJson config)) =
        .ok (some (.array (config.blockedEventTypes.map .string))) := rfl
    have isText : Value.isString (some (.string streamId)) = true := rfl
    simp only [truthyPayload, atStreamId, isText, atConfig, isObject, atTypes, strings,
      Bool.not_true, Bool.false_eq_true, if_false, if_true]
    rfl

/-- The changes that a call of `setConfig` or `clearConfig` announces. -/
def announced (streamId : String) : Option FilterConfig → FilterChange
  | none => .clear streamId
  | some config => .set streamId config

/-- Messages are read as they were meant, and no text makes the reader throw or return
anything but a change with strings in it. -/
theorem filterPayload_wire (parse : String → Except String Json) :
    (∀ (streamId : String) (config : Option FilterConfig) (sender : String),
      parse (payloadJson ⟨streamId, config, sender⟩).stringify =
          .ok (payloadJson ⟨streamId, config, sender⟩) →
        parseFilterPayload parse (stringifyFilterPayload streamId config sender) =
          .ok (some (.of (announced streamId config)))) ∧
      ∀ (raw : String) (v : Json), parse raw = .ok v →
        ∃ change : Option FilterChange,
          parseFilterPayload parse raw = .ok (change.map ParsedChange.of) := by
  constructor
  · intro streamId config sender undone
    rw [stringifyFilterPayload, parse_payloadJson undone]
    cases config with
    | none => rfl
    | some config => rfl
  · intro raw v parsed
    exact parseFilterPayload_total parsed

/-- A reader for one message. -/
def parseOnly (v : Json) (raw : String) : Except String Json :=
  if raw = v.stringify then .ok v else .error "Unexpected token in JSON"

theorem filterPayload_wire_blockChat :
    parseFilterPayload (parseOnly (payloadJson ⟨"stream-1", some ⟨["chat"]⟩, "worker-1"⟩))
        (stringifyFilterPayload "stream-1" (some ⟨["chat"]⟩) "worker-1") =
      .ok (some (.set (some (.string "stream-1")) [.string "chat"])) ∧
    ∃ change : Option FilterChange,
      parseFilterPayload (parseOnly .null) "null" = .ok (change.map ParsedChange.of) :=
  ⟨(filterPayload_wire (parseOnly _)).1 "stream-1" (some ⟨["chat"]⟩) "worker-1" (if_pos rfl),
    (filterPayload_wire (parseOnly .null)).2 "null" .null (if_pos rfl)⟩

/-- The cluster of the other modules, which sends payloads for texts, loses nothing. -/
theorem deliver_text {parse : String → Except String Json} (call : FilterCall)
    (undone : parse (payloadJson call.payload).stringify = .ok (payloadJson call.payload)) :
    parseFilterPayload parse
        (stringifyFilterPayload call.change.streamId call.change.config call.workerId) =
      .ok (some (.of call.change)) := by
  have payload : (⟨call.change.streamId, call.change.config, call.workerId⟩ : WirePayload) =
      call.payload := rfl
  rw [stringifyFilterPayload, payload, parse_payloadJson undone, call.parse_payload]

end Wire
end RedisFilterConfigStore
end Processing
end XStreamRoll
