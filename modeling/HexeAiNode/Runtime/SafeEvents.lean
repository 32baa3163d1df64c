import HexeAiNode.Runtime.DomainEventPublisher

/-!
# Published domain events are safe

A consumer reads the encoded payload.  `Value.loaded` is what a reader makes of the printed tree: of equal keys in one
object the later one counts.  A name in it was a name of the tree (`keysAll_loaded`), a name of the tree was a key of
the payload (`keysAll_toJson`), and of the keys of the payload none is forbidden (`keysAll_of_findForbiddenField`).

The topic of an event and its type determine each other: a type has dots where the topic has slashes, and no slashes
(`topicEventType_topic`).
-/

namespace HexeAiNode
namespace Runtime

open Py

/-- A name that may not stand in an event. -/
def isForbidden (name : String) : Bool :=
  stripLower name ∈ legacyPromotionFields || isPrivateName (stripLower name)

/-! ## Keys at any depth -/

mutual

/-- Every key of the object, at any depth, has the property. -/
def Obj.KeysAll (P : Key → Prop) : Obj → Prop
  | .list xs => Obj.KeysAllList P xs
  | .tuple xs => Obj.KeysAllList P xs
  | .dict kvs => Obj.KeysAllEntries P kvs
  | _ => True

/-- The keys of every element. -/
def Obj.KeysAllList (P : Key → Prop) : List Obj → Prop
  | [] => True
  | x :: xs => Obj.KeysAll P x ∧ Obj.KeysAllList P xs

/-- Every key of the entries, and the keys of their values. -/
def Obj.KeysAllEntries (P : Key → Prop) : List (Key × Obj) → Prop
  | [] => True
  | (k, x) :: kvs => P k ∧ Obj.KeysAll P x ∧ Obj.KeysAllEntries P kvs

end

mutual

/-- Every key of the JSON value, at any depth, has the property. -/
def KeysAll (P : String → Prop) : Value → Prop
  | .list xs => KeysAllList P xs
  | .dict kvs => KeysAllEntries P kvs
  | _ => True

/-- The keys of every element. -/
def KeysAllList (P : String → Prop) : List Value → Prop
  | [] => True
  | x :: xs => KeysAll P x ∧ KeysAllList P xs

/-- Every key of the entries, and the keys of their values. -/
def KeysAllEntries (P : String → Prop) : List (String × Value) → Prop
  | [] => True
  | (k, x) :: kvs => P k ∧ KeysAll P x ∧ KeysAllEntries P kvs

end

theorem keysAllEntries_iff {P : String → Prop} {kvs : List (String × Value)} :
    KeysAllEntries P kvs ↔ ∀ e ∈ kvs, P e.1 ∧ KeysAll P e.2 := by
  induction kvs with
  | nil => simp [KeysAllEntries]
  | cons e kvs ih =>
    obtain ⟨k, x⟩ := e
    rw [KeysAllEntries, ih, List.forall_mem_cons, and_assoc]

/-! ## The check -/

mutual

/-- **The check** leaves no forbidden key. -/
theorem keysAll_of_findForbiddenField : ∀ (x : Obj) {path : String}, findForbiddenField path x = none →
    x.KeysAll fun key => isForbidden key.toStr = false
  | .dict kvs => by
    intro h
    rw [findForbiddenField] at h
    rw [Obj.KeysAll]
    exact keysAllEntries_of_findForbiddenEntry kvs h
  | .list xs | .tuple xs => by
    intro h
    rw [findForbiddenField] at h
    rw [Obj.KeysAll]
    exact keysAllList_of_findForbiddenElement xs h
  | .bytes _ | .none | .bool _ | .int _ | .float _ _ | .str _ | .other _ => by
    intro _
    simp only [Obj.KeysAll]

theorem keysAllEntries_of_findForbiddenEntry : ∀ (kvs : List (Key × Obj)) {path : String},
    findForbiddenEntry path kvs = none → Obj.KeysAllEntries (fun key => isForbidden key.toStr = false) kvs
  | [] => by
    intro _
    simp only [Obj.KeysAllEntries]
  | (key, child) :: kvs => by
    intro h
    unfold findForbiddenEntry at h
    dsimp only at h
    split at h
    · cases h
    · next hlegacy =>
      split at h
      · cases h
      · next hprivate =>
        split at h
        · cases h
        · next hchild =>
          rw [Obj.KeysAllEntries]
          refine ⟨?_, keysAll_of_findForbiddenField child hchild, keysAllEntries_of_findForbiddenEntry kvs h⟩
          rw [isForbidden, Bool.or_eq_false_iff]
          exact ⟨decide_eq_false hlegacy, eq_false_of_ne_true hprivate⟩

theorem keysAllList_of_findForbiddenElement : ∀ (xs : List Obj) {path : String} {index : ℕ},
    findForbiddenElement path index xs = none → Obj.KeysAllList (fun key => isForbidden key.toStr = false) xs
  | [] => by
    intro _
    simp only [Obj.KeysAllList]
  | child :: xs => by
    intro h
    unfold findForbiddenElement at h
    split at h
    · cases h
    · next hchild =>
      rw [Obj.KeysAllList]
      exact ⟨keysAll_of_findForbiddenField child hchild, keysAllList_of_findForbiddenElement xs h⟩

end

/-! ## The JSON -/

/-- A name that `json.dumps` makes of a key is not forbidden if the `str` of the key is not: they differ only for
constants and for numbers that are not finite. -/
theorem isForbidden_jsonKey {key : Key} {name : String} (h : key.toJson = .ok name)
    (hkey : isForbidden key.toStr = false) : isForbidden name = false := by
  cases key with
  | str s =>
    obtain rfl := Except.ok.inj h
    exact hkey
  | int i =>
    obtain rfl := Except.ok.inj h
    exact hkey
  | float x text =>
    obtain rfl := Except.ok.inj h
    cases x with
    | finite q => exact hkey
    | posInf => exact (by decide : isForbidden "Infinity" = false)
    | negInf => exact (by decide : isForbidden "-Infinity" = false)
    | nan => exact (by decide : isForbidden "NaN" = false)
  | bool b =>
    obtain rfl := Except.ok.inj h
    cases b <;> decide
  | none =>
    obtain rfl := Except.ok.inj h
    decide
  | other text => cases h

mutual

/-- **The names of the tree** are not forbidden if the keys of the object are not. -/
theorem keysAll_toJson : ∀ {x : Obj} {tree : Value}, x.toJson = .ok tree →
    (x.KeysAll fun key => isForbidden key.toStr = false) → KeysAll (fun name => isForbidden name = false) tree
  | .none, _, h, _ | .bool _, _, h, _ | .int _, _, h, _ | .float _ _, _, h, _ | .str _, _, h, _ => by
    obtain rfl := Except.ok.inj h
    simp only [KeysAll]
  | .bytes _, _, h, _ | .other _, _, h, _ => by cases h
  | .list xs, _, h, hkeys | .tuple xs, _, h, hkeys => by
    rw [Obj.toJson] at h
    rw [Obj.KeysAll] at hkeys
    rcases hxs : Obj.toJsonList xs with e | vs
    · rw [hxs] at h
      cases h
    · rw [hxs] at h
      obtain rfl := Except.ok.inj h
      rw [KeysAll]
      exact keysAllList_toJson hxs hkeys
  | .dict kvs, _, h, hkeys => by
    rw [Obj.toJson] at h
    rw [Obj.KeysAll] at hkeys
    rcases hkvs : Obj.toJsonEntries kvs with e | es
    · rw [hkvs] at h
      cases h
    · rw [hkvs] at h
      obtain rfl := Except.ok.inj h
      rw [KeysAll]
      exact keysAllEntries_toJson hkvs hkeys

theorem keysAllList_toJson : ∀ {xs : List Obj} {vs : List Value}, Obj.toJsonList xs = .ok vs →
    Obj.KeysAllList (fun key => isForbidden key.toStr = false) xs →
      KeysAllList (fun name => isForbidden name = false) vs
  | [], _, h, _ => by
    obtain rfl := Except.ok.inj h
    trivial
  | x :: xs, _, h, hkeys => by
    rw [Obj.toJsonList] at h
    rw [Obj.KeysAllList] at hkeys
    obtain ⟨v, hv, h⟩ := bind_eq_ok.mp h
    obtain ⟨vs, hvs, h⟩ := bind_eq_ok.mp h
    obtain rfl := pure_eq_ok.mp h
    rw [KeysAllList]
    exact ⟨keysAll_toJson hv hkeys.1, keysAllList_toJson hvs hkeys.2⟩

theorem keysAllEntries_toJson : ∀ {kvs : List (Key × Obj)} {es : List (String × Value)},
    Obj.toJsonEntries kvs = .ok es → Obj.KeysAllEntries (fun key => isForbidden key.toStr = false) kvs →
      KeysAllEntries (fun name => isForbidden name = false) es
  | [], _, h, _ => by
    obtain rfl := Except.ok.inj h
    trivial
  | (k, x) :: kvs, _, h, hkeys => by
    rw [Obj.toJsonEntries] at h
    rw [Obj.KeysAllEntries] at hkeys
    obtain ⟨name, hname, h⟩ := bind_eq_ok.mp h
    obtain ⟨v, hv, h⟩ := bind_eq_ok.mp h
    obtain ⟨es, hes, h⟩ := bind_eq_ok.mp h
    obtain rfl := pure_eq_ok.mp h
    rw [KeysAllEntries]
    exact ⟨isForbidden_jsonKey hname hkeys.1, keysAll_toJson hv hkeys.2.1, keysAllEntries_toJson hes hkeys.2.2⟩

end

mutual

/-- The value that a reader builds from a printed tree: of equal keys the later one counts. -/
def loaded : Value → Value
  | .list xs => .list (loadedList xs)
  | .dict kvs => .dict ((loadedEntries kvs).foldl (fun d e => Assoc.set d e.1 e.2) [])
  | v => v

/-- Every element read. -/
def loadedList : List Value → List Value
  | [] => []
  | x :: xs => loaded x :: loadedList xs

/-- Every entry read. -/
def loadedEntries : List (String × Value) → List (String × Value)
  | [] => []
  | (k, x) :: kvs => (k, loaded x) :: loadedEntries kvs

end

theorem mem_of_mem_foldl_set {kvs d : List (String × Value)} {e : String × Value}
    (h : e ∈ kvs.foldl (fun d e => Assoc.set d e.1 e.2) d) : e ∈ d ∨ e ∈ kvs := by
  induction kvs generalizing d with
  | nil => exact .inl h
  | cons entry kvs ih =>
    rcases ih h with h | h
    · rcases Assoc.mem_of_mem_set h with rfl | h
      · exact .inr List.mem_cons_self
      · exact .inl h
    · exact .inr (List.mem_cons_of_mem _ h)

mutual

/-- **Reading** adds no names. -/
theorem keysAll_loaded {P : String → Prop} : ∀ {v : Value}, KeysAll P v → KeysAll P (loaded v)
  | .null, _ | .bool _, _ | .int _, _ | .float _ _, _ | .str _, _ => by simp only [loaded, KeysAll]
  | .list xs, h => by
    rw [KeysAll] at h
    rw [loaded, KeysAll]
    exact keysAllList_loaded h
  | .dict kvs, h => by
    rw [KeysAll] at h
    rw [loaded, KeysAll, keysAllEntries_iff]
    intro e he
    rcases mem_of_mem_foldl_set he with he | he
    · cases he
    · exact keysAllEntries_iff.mp (keysAllEntries_loaded h) e he

theorem keysAllList_loaded {P : String → Prop} : ∀ {xs : List Value}, KeysAllList P xs → KeysAllList P (loadedList xs)
  | [], _ => trivial
  | x :: xs, h => by
    rw [KeysAllList] at h
    rw [loadedList, KeysAllList]
    exact ⟨keysAll_loaded h.1, keysAllList_loaded h.2⟩

theorem keysAllEntries_loaded {P : String → Prop} : ∀ {kvs : List (String × Value)}, KeysAllEntries P kvs →
    KeysAllEntries P (loadedEntries kvs)
  | [], _ => trivial
  | (k, x) :: kvs, h => by
    rw [KeysAllEntries] at h
    rw [loadedEntries, KeysAllEntries]
    exact ⟨h.1, keysAll_loaded h.2.1, keysAllEntries_loaded h.2.2⟩

end

/-! ## Topics -/

theorem replaceChars_singleton (a b : Char) (cs : List Char) :
    replaceChars [a] [b] 0 cs = cs.map fun c => if c = a then b else c := by
  induction cs with
  | nil => rfl
  | cons c cs ih =>
    by_cases h : c = a
    · simp [replaceChars, List.isPrefixOf, h, ih]
    · simp [replaceChars, List.isPrefixOf, h, Ne.symm h, ih]

/-- The characters of an event type. -/
theorem mem_of_matchesParts {dots : ℕ} {begun : Bool} {cs : List Char} (h : matchesParts dots begun cs = true) :
    ∀ c ∈ cs, c = '.' ∨ isEventTypeChar c = true := by
  induction cs generalizing dots begun with
  | nil => exact fun c hc => absurd hc List.not_mem_nil
  | cons d cs ih =>
    intro c hc
    unfold matchesParts at h
    split at h
    · next hdot =>
      rw [Bool.and_eq_true] at h
      rcases List.mem_cons.mp hc with rfl | hc
      · exact .inl hdot
      · exact ih h.2 c hc
    · rw [Bool.and_eq_true] at h
      rcases List.mem_cons.mp hc with rfl | hc
      · exact .inr h.1
      · exact ih h.2 c hc

/-- **The topic gives the type back.** -/
theorem topicEventType_topic {eventType : Value} {topic : String} (h : domainEventTopic eventType = .ok topic) :
    topicEventType topic = eventType.normalizeString := by
  unfold domainEventTopic at h
  dsimp only at h
  split at h
  · next htype =>
    obtain rfl := Except.ok.inj h
    have hstarts : startsWith ("hexe/events/" ++ replace eventType.normalizeString "." "/") "hexe/events/" = true := by
      rw [startsWith_iff, String.toList_append]
      exact List.prefix_append _ _
    have hslash : ∀ c ∈ eventType.normalizeString.toList, c ≠ '/' := by
      rintro c hc rfl
      rcases mem_of_matchesParts htype '/' hc with h | h <;> revert h <;> decide
    have hback : (eventType.normalizeString.toList.map fun c => if c = '.' then '/' else c).map
        (fun c => if c = '/' then '.' else c) = eventType.normalizeString.toList := by
      rw [List.map_map]
      calc eventType.normalizeString.toList.map _ = eventType.normalizeString.toList.map id := by
            refine List.map_congr_left fun c hc => ?_
            by_cases hdot : c = '.' <;> simp [hdot, hslash c hc]
        _ = eventType.normalizeString.toList := List.map_id _
    have hrest : ("hexe/events/" ++ replace eventType.normalizeString "." "/").toList.drop 12 =
        (replace eventType.normalizeString "." "/").toList := by
      rw [String.toList_append]
      exact List.drop_left' rfl
    have hdotList : ".".toList = ['.'] := by decide
    have hslashList : "/".toList = ['/'] := by decide
    rw [topicEventType, if_pos hstarts, hrest, String.ofList_toList, replace, replace, hdotList, hslashList,
      String.toList_ofList, replaceChars_singleton, replaceChars_singleton, hback, String.ofList_toList]
  · cases h

/-- An event type that is accepted is what the payload has. -/
theorem eventTypeText_of_topic {args : EventArgs} {topic : String} (h : domainEventTopic args.eventType = .ok topic) :
    args.eventType.normalizeString = args.eventTypeText := by
  unfold EventArgs.eventTypeText Value.normalizeString
  by_cases htruthy : args.eventType.truthy = true
  · rw [if_pos htruthy]
  · have hempty : args.eventType.normalizeString = "" := by
      rw [Value.normalizeString, if_neg htruthy, strip_empty]
    unfold domainEventTopic at h
    rw [hempty] at h
    cases h

/-! ## Events -/

/-- The event type in a payload. -/
def payloadEventType (payload : List (Key × Obj)) : Option String :=
  payload.findSome? fun
    | (.str "event_type", .str s) => some s
    | _ => none

/-- A reader that reads an event faithfully: it builds the value of the printed tree. -/
def ReadsBack (reader : ByteArray → Option Value) (event : DomainEvent) : Prop :=
  ∀ tree, (Obj.dict event.payload).toJson = .ok tree → reader event.encoded = some (loaded tree)

section Events

variable {env : EventEnv} {nodeId : Value} {args : EventArgs} {event : DomainEvent}

/-- **What an event that is built has passed.** -/
theorem buildNodeDomainEvent_spec (h : buildNodeDomainEvent env nodeId args = .ok event) :
    domainEventTopic args.eventType = .ok event.topic ∧
      payloadEventType event.payload = some args.eventTypeText ∧
      findForbiddenField "payload" (.dict event.payload) = none ∧
      (∃ text, wireText event.payload = .ok text ∧ event.encoded = text.toUTF8) ∧
      event.encoded.size ≤ maximumDomainEventPayloadBytes := by
  unfold buildNodeDomainEvent at h
  dsimp only at h
  split at h
  · cases h
  split at h
  · cases h
  split at h
  · cases h
  split at h
  · cases h
  split at h
  · cases h
  obtain ⟨topic, htopic, h⟩ := bind_eq_ok.mp h
  split at h
  · cases h
  · next hallowed =>
    obtain ⟨text, htext, h⟩ := bind_eq_ok.mp h
    split at h
    · cases h
    · next hsize =>
      split at h
      · cases h
      · obtain rfl := pure_eq_ok.mp h
        exact ⟨htopic, rfl, hallowed, ⟨text, htext, rfl⟩, not_lt.mp hsize⟩

/-- No name in what a consumer reads is forbidden. -/
theorem keysAll_of_readsBack {reader : ByteArray → Option Value} {json : Value}
    (h : buildNodeDomainEvent env nodeId args = .ok event) (hreader : ReadsBack reader event)
    (hread : reader event.encoded = some json) : KeysAll (fun name => isForbidden name = false) json := by
  obtain ⟨-, -, hallowed, ⟨text, htext, -⟩, -⟩ := buildNodeDomainEvent_spec h
  obtain ⟨tree, htree, -⟩ := bind_eq_ok.mp htext
  rw [hreader tree htree] at hread
  obtain rfl := Option.some.inj hread
  exact keysAll_loaded (keysAll_toJson htree (keysAll_of_findForbiddenField _ hallowed))

/-- The client is given the encoded event. -/
theorem message_of_publish {client : MqttMessage → Bool × Option String} {trust : Value} {result : PublishResult}
    {message : MqttMessage} (h : publish client env trust args = .ok (result, some message)) :
    ∃ event, buildNodeDomainEvent env (.str (trust.asDict.get "node_id").normalizeString) args = .ok event ∧
      message.topic = event.topic ∧ message.payload = event.encoded := by
  unfold publish at h
  dsimp only at h
  obtain ⟨port, -, h⟩ := bind_eq_ok.mp h
  split at h
  · cases h
  · obtain ⟨event, hevent, h⟩ := bind_eq_ok.mp h
    refine ⟨event, hevent, ?_⟩
    obtain ⟨-, -, -, ⟨text, htext, hencoded⟩, -⟩ := buildNodeDomainEvent_spec hevent
    have hsent : publishJson event.topic event.payload 1 false =
        .ok { topic := event.topic, payload := text.toUTF8, qos := 1, retain := false } := by
      rw [publishJson, htext]
      rfl
    rw [hsent] at h
    have hmessage := (Prod.mk.inj (pure_eq_ok.mp h)).2
    obtain rfl := Option.some.inj hmessage
    exact ⟨rfl, hencoded.symm⟩

/-- Topics are equal exactly when the event types are. -/
theorem topic_eq_iff {env' : EventEnv} {nodeId' : Value} {args' : EventArgs} {event' : DomainEvent}
    (h : buildNodeDomainEvent env nodeId args = .ok event) (h' : buildNodeDomainEvent env' nodeId' args' = .ok event') :
    event.topic = event'.topic ↔ payloadEventType event.payload = payloadEventType event'.payload := by
  obtain ⟨htopic, htype, -⟩ := buildNodeDomainEvent_spec h
  obtain ⟨htopic', htype', -⟩ := buildNodeDomainEvent_spec h'
  rw [htype, htype', Option.some_inj, ← eventTypeText_of_topic htopic, ← eventTypeText_of_topic htopic']
  constructor
  · intro heq
    rw [← topicEventType_topic htopic, ← topicEventType_topic htopic', heq]
  · intro heq
    unfold domainEventTopic at htopic htopic'
    rw [heq] at htopic
    exact Except.ok.inj (htopic.symm.trans htopic')

end Events

/-- An event with keys that are no texts, and with a tuple. -/
def jobFinished : EventArgs where
  eventType := .str "node.job_finished"
  data := .dict [(.str "job", .dict [(.int 1, .tuple [.str "done", .none])]), (.none, .bool true)]

end Runtime
end HexeAiNode
