import HexeAiNode.Python.Coercion
import HexeAiNode.Python.Substring

/-!
# Domain events

`build_node_domain_event` builds the payload of an event, refuses it if a field name in it is forbidden, and encodes it.
The check walks through the Python object, the guarantee is about the JSON that a consumer reads: between the two stands
`json.dumps`, which turns keys that are no texts into texts and tuples into arrays, and refuses what JSON does not have.

`Obj` is what the callers may put into an event, with keys of any kind (`Key`).  `Obj.toJson` is the tree that
`json.dumps` prints, `Value.loaded` is that tree as a reader builds it: of two equal keys the later one counts.  A
name found at some depth of the latter comes from a key at some depth of the object (`hasKey_toJson`), and what the
check says about the key also holds of the name (`isForbidden_jsonKey`).
-/

namespace HexeAiNode
namespace Runtime

open Py

/-! ## Objects -/

/-- A key of a dictionary; `other` is a hashable value that JSON does not have as a key, with its `str`. -/
inductive Key where
  | str (s : String)
  | int (i : ℤ)
  | float (x : FloatVal) (text : String)
  | bool (b : Bool)
  | none
  | other (text : String)

/-- A Python object; `other` is one that JSON does not have. -/
inductive Obj where
  | none
  | bool (b : Bool)
  | int (i : ℤ)
  | float (x : FloatVal) (text : String)
  | str (s : String)
  | list (xs : List Obj)
  | tuple (xs : List Obj)
  | dict (kvs : List (Key × Obj))
  | bytes (content : List UInt8)
  | other (typeName : String)

/-- `str(key)`. -/
def Key.toStr : Key → String
  | .str s => s
  | .int i => toString i
  | .float _ text => text
  | .bool b => if b then "True" else "False"
  | .none => "None"
  | .other text => text

/-- A key as `json.dumps` writes it. -/
def Key.toJson : Key → Except Exc String
  | .str s => .ok s
  | .int i => .ok (toString i)
  | .float x text => .ok (dumps {} (.float x text))
  | .bool b => .ok (if b then "true" else "false")
  | .none => .ok "null"
  | .other _ => .error ⟨.typeError, "keys must be str, int, float, bool or None"⟩

namespace Obj

/-- `bool(x)`, for `None` and dictionaries. -/
def asDict : Obj → List (Key × Obj)
  | dict kvs => kvs
  | _ => []

/-- `x is None`. -/
def isNone : Obj → Bool
  | none => true
  | _ => false

/-- `isinstance(x, dict)`. -/
def isDict : Obj → Bool
  | dict _ => true
  | _ => false

mutual

/-- The tree that `json.dumps` prints. -/
def toJson : Obj → Except Exc Value
  | none => .ok .null
  | bool b => .ok (.bool b)
  | int i => .ok (.int i)
  | float x text => .ok (.float x text)
  | str s => .ok (.str s)
  | list xs => Value.list <$> toJsonList xs
  | tuple xs => Value.list <$> toJsonList xs
  | dict kvs => Value.dict <$> toJsonEntries kvs
  | bytes _ => .error ⟨.typeError, "Object of type bytes is not JSON serializable"⟩
  | other typeName => .error ⟨.typeError, "Object of type " ++ typeName ++ " is not JSON serializable"⟩

/-- The tree of every element. -/
def toJsonList : List Obj → Except Exc (List Value)
  | [] => .ok []
  | x :: xs => do
    let v ← toJson x
    let vs ← toJsonList xs
    return v :: vs

/-- The tree of every entry. -/
def toJsonEntries : List (Key × Obj) → Except Exc (List (String × Value))
  | [] => .ok []
  | (k, x) :: kvs => do
    let key ← k.toJson
    let v ← toJson x
    let rest ← toJsonEntries kvs
    return (key, v) :: rest

end

end Obj

/-! ## The check -/

/-- `_LEGACY_PROMOTION_FIELDS`. -/
def legacyPromotionFields : List String :=
  ["promotion_id", "promoted_event_type", "received_at", "promoted_at", "core", "routing", "policy"]

/-- `_PRIVATE_RAW_FIELDS`. -/
def privateRawFields : List String :=
  ["attachment", "attachments", "authorization", "body", "content", "cookie", "credentials", "message_body", "password",
    "prompt", "raw", "raw_body", "raw_content", "raw_message", "secret", "token"]

/-- A private name, or one that ends like a private name. -/
def isPrivateName (name : String) : Bool :=
  name ∈ privateRawFields || ["_password", "_secret", "_token"].any (endsWith name)

mutual

/-- `_find_forbidden_field`. -/
def findForbiddenField (path : String) : Obj → Option String
  | .dict kvs => findForbiddenEntry path kvs
  | .list xs => findForbiddenElement path 0 xs
  | .tuple xs => findForbiddenElement path 0 xs
  | .bytes _ => some ("binary or attachment content: " ++ path)
  | _ => none

/-- What is forbidden in the entries of a dictionary. -/
def findForbiddenEntry (path : String) : List (Key × Obj) → Option String
  | [] => none
  | (key, child) :: kvs =>
    let normalizedKey := stripLower key.toStr
    let childPath := path ++ "." ++ key.toStr
    if normalizedKey ∈ legacyPromotionFields then some ("legacy promotion field: " ++ childPath)
    else if isPrivateName normalizedKey then some ("private raw-content field: " ++ childPath)
    else
      match findForbiddenField childPath child with
      | some forbidden => some forbidden
      | none => findForbiddenEntry path kvs

/-- What is forbidden in the elements of a list. -/
def findForbiddenElement (path : String) (index : ℕ) : List Obj → Option String
  | [] => none
  | child :: xs =>
    match findForbiddenField (path ++ "[" ++ toString index ++ "]") child with
    | some forbidden => some forbidden
    | none => findForbiddenElement path (index + 1) xs

end

/-! ## Events -/

/-- The characters of an event type, dots aside. -/
def isEventTypeChar (c : Char) : Bool := c.isLower || c.isDigit || c == '_'

/-- The text is a part and more parts after dots; `begun` says that the current part is not empty, and `dots` counts
the dots before it. -/
def matchesParts (dots : ℕ) (begun : Bool) : List Char → Bool
  | [] => begun && 1 ≤ dots
  | c :: cs =>
    if c = '.' then begun && matchesParts (dots + 1) false cs else isEventTypeChar c && matchesParts dots true cs

/-- `_EVENT_TYPE_PATTERN.fullmatch`. -/
def isEventType (s : String) : Bool := matchesParts 0 false s.toList

/-- `domain_event_topic`. -/
def domainEventTopic (eventType : Value) : Except Exc String :=
  let normalized := eventType.normalizeString
  if isEventType normalized then .ok ("hexe/events/" ++ replace normalized "." "/")
  else .error ⟨.valueError, "invalid_domain_event_type"⟩

/-- `MAXIMUM_DOMAIN_EVENT_PAYLOAD_BYTES`. -/
def maximumDomainEventPayloadBytes : ℕ := 65536

/-- The event id and the time that are taken where none is given. -/
structure EventEnv where
  uuid : String
  nowIso : String

/-- The arguments of `build_node_domain_event`. -/
structure EventArgs where
  eventType : Value
  eventId : Value := .null
  component : Value := .str "node"
  nodeType : Value := .null
  subject : Obj := .none
  data : Obj := .none
  occurredAt : Value := .null
  severity : Value := .null
  priority : Value := .null
  safetyCritical : Value := .bool false

/-- What `build_node_domain_event` returns. -/
structure DomainEvent where
  topic : String
  payload : List (Key × Obj)
  encoded : ByteArray

/-- `str(x).strip()`, under a name, unless `x` is `None`. -/
def optionalText (name : String) (x : Value) : List (Key × Obj) :=
  if x.isNull then [] else [(.str name, .str (strip x.toStr))]

/-- The source of an event. -/
def eventSource (nodeId component : String) (nodeType : Value) : Obj :=
  let nodeType := if nodeType.isNull then "" else strip nodeType.toStr
  .dict ([(.str "node_id", .str nodeId), (.str "component", .str component)] ++
    if nodeType = "" then [] else [(.str "node_type", .str nodeType)])

/-- `str(event_type).strip()`. -/
def EventArgs.eventTypeText (args : EventArgs) : String := strip args.eventType.toStr

/-- The payload of an event. -/
def eventPayload (env : EventEnv) (nodeId eventId component : String) (args : EventArgs) : List (Key × Obj) :=
  [(.str "schema_version", .int 1), (.str "event_id", .str eventId),
    (.str "event_type", .str args.eventTypeText),
    (.str "source", eventSource nodeId component args.nodeType),
    (.str "subject", .dict args.subject.asDict), (.str "data", .dict args.data.asDict),
    (.str "occurred_at", .str (strip (args.occurredAt.orElse (.str env.nowIso)).toStr)),
    (.str "safety_critical", .bool args.safetyCritical.truthy)] ++
  optionalText "severity" args.severity ++ optionalText "priority" args.priority

/-- `json.dumps(payload, separators=(",", ":"), ensure_ascii=False)`. -/
def wireText (payload : List (Key × Obj)) : Except Exc String := do
  let tree ← (Obj.dict payload).toJson
  return dumps { ensureAscii := false, itemSep := ",", keySep := ":" } tree

/-- `topic.removeprefix("hexe/events/").replace("/", ".")`. -/
def topicEventType (topic : String) : String :=
  let rest := if startsWith topic "hexe/events/" then String.ofList (topic.toList.drop 12) else topic
  replace rest "/" "."

/-- Some argument is neither an object nor `None`. -/
def notAnObject (x : Obj) : Bool := !x.isNone && !x.isDict

/-- `build_node_domain_event`. -/
def buildNodeDomainEvent (env : EventEnv) (trustedNodeId : Value) (args : EventArgs) : Except Exc DomainEvent :=
  let nodeId := trustedNodeId.normalizeString
  let eventId := strip (args.eventId.orElse (.str ("evt-" ++ env.uuid))).toStr
  let component := args.component.normalizeString
  if nodeId = "" then .error ⟨.valueError, "trusted_node_id_required"⟩
  else if eventId = "" then .error ⟨.valueError, "event_id_required"⟩
  else if component = "" then .error ⟨.valueError, "source_component_required"⟩
  else if notAnObject args.subject then .error ⟨.valueError, "subject_must_be_an_object"⟩
  else if notAnObject args.data then .error ⟨.valueError, "data_must_be_an_object"⟩
  else do
    let topic ← domainEventTopic args.eventType
    let payload := eventPayload env nodeId eventId component args
    match findForbiddenField "payload" (.dict payload) with
    | some forbidden => .error ⟨.valueError, "unsafe_domain_event_payload: " ++ forbidden⟩
    | none =>
      let text ← wireText payload
      let encoded := text.toUTF8
      if maximumDomainEventPayloadBytes < encoded.size then
        .error ⟨.valueError, "domain_event_payload_too_large"⟩
      else if topicEventType topic ≠ args.eventTypeText then
        .error ⟨.valueError, "domain_event_topic_type_mismatch"⟩
      else return { topic, payload, encoded }

/-! ## Publishing -/

/-- What the MQTT client is given. -/
structure MqttMessage where
  topic : String
  payload : ByteArray
  qos : ℕ
  retain : Bool

/-- `_publish_json_blocking` up to the client: the payload is written once more. -/
def publishJson (topic : String) (payload : List (Key × Obj)) (qos : ℕ) (retain : Bool) : Except Exc MqttMessage := do
  let wirePayload ← wireText payload
  return { topic, payload := wirePayload.toUTF8, qos, retain }

/-- The result of `publish`. -/
structure PublishResult where
  published : Bool
  lastError : Option String
  lastTopic : Option String
  eventId : Option String := none

/-- `DomainEventPublisher.publish`, with the message that the client was given.  What the client answers is a
parameter: whether the message was published, and the error. -/
def publish (client : MqttMessage → Bool × Option String) (env : EventEnv) (trust : Value) (args : EventArgs) :
    Except Exc (PublishResult × Option MqttMessage) := do
  let trust := trust.asDict
  let nodeId := (trust.get "node_id").normalizeString
  let host := (trust.get "operational_mqtt_host").normalizeString
  let identity := (trust.get "operational_mqtt_identity").normalizeString
  let token := (trust.get "operational_mqtt_token").normalizeString
  let port ← ((trust.get "operational_mqtt_port").orElse (.int 0)).toInt
  if nodeId = "" ∨ host = "" ∨ identity = "" ∨ token = "" ∨ port ≤ 0 then
    return ({ published := false, lastError := some "invalid_operational_mqtt_credentials", lastTopic := none }, none)
  else
    let event ← buildNodeDomainEvent env (.str nodeId) args
    let eventId := strip (args.eventId.orElse (.str ("evt-" ++ env.uuid))).toStr
    match publishJson event.topic event.payload 1 false with
    | .error e =>
      let result : PublishResult :=
        { published := false, lastError := some e.text, lastTopic := some event.topic, eventId := some eventId }
      return (result, none)
    | .ok message =>
      let (published, error) := client message
      let lastError := if published then none else error
      let result : PublishResult :=
        { published := published, lastError := lastError, lastTopic := some event.topic, eventId := some eventId }
      return (result, some message)

end Runtime
end HexeAiNode
