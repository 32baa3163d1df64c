import HexeAiNode.Library.NormalizedStore
import HexeAiNode.Onboarding.NodeIds
import HexeAiNode.Python.Coercion
import HexeAiNode.Python.Json

/-!
# The trust state

`TrustStateStore` keeps what a node got when it was approved: its id, the Core it is paired with, its tokens and
the broker.  The state is a dictionary; its node id is normalised and the MQTT identity is derived from it before it
is checked and written with sorted keys.  A file that is loaded goes the same way, and is written anew if this has
changed it.

The store is an instance of `NormalizedStore`, and `faithful_trustStateStore` says that it keeps its states.  A file
that is not there and one that is not JSON are treated alike, so that both are `none`.
-/

namespace HexeAiNode
namespace Onboarding

open Py

/-! ## The state -/

/-- `REQUIRED_TRUST_STATE_FIELDS`. -/
def requiredTrustStateFields : List String :=
  ["node_id", "node_name", "node_type", "paired_core_id", "core_api_endpoint", "node_trust_token",
    "initial_baseline_policy", "baseline_policy_version", "operational_mqtt_identity", "operational_mqtt_token",
    "operational_mqtt_host", "operational_mqtt_port", "bootstrap_mqtt_host", "registration_timestamp"]

/-- `string_fields` of `validate_trust_state`. -/
def stringFields : List String :=
  ["node_id", "node_name", "node_type", "paired_core_id", "core_api_endpoint", "node_trust_token",
    "baseline_policy_version", "operational_mqtt_identity", "operational_mqtt_token", "operational_mqtt_host",
    "bootstrap_mqtt_host", "registration_timestamp"]

/-- `_is_non_empty_string`. -/
def isNonEmptyString : Value → Bool
  | .str s => strip s != ""
  | _ => false

/-- `normalize_trust_state`, of a dictionary. -/
def normalizeTrustState (data : Dict) : Dict :=
  if (Assoc.get? data "node_id").isSome then
    let normalized := data.set "node_id" (.str (normalizeNodeId (data.get "node_id")))
    normalized.set "operational_mqtt_identity" (.str (deriveOperationalMqttIdentity (normalized.get "node_id")))
  else data

/-- What `validate_trust_state` finds wrong with a state that has been normalised. -/
def trustStateError (data : Dict) : Option String :=
  match requiredTrustStateFields.find? fun key => (Assoc.get? data key).isNone with
  | some key => some ("missing_" ++ key)
  | none =>
    match stringFields.find? fun key => !isNonEmptyString (data.get key) with
    | some key => some ("invalid_" ++ key)
    | none =>
      if isValidCanonicalNodeId (data.get "node_id") = false then some "invalid_node_id"
      else if Value.same (data.get "node_type") (.str "ai-node") = false then some "invalid_node_type"
      else if (data.get "initial_baseline_policy").isDict = false then some "invalid_initial_baseline_policy"
      else
        match (data.get "operational_mqtt_port").toInt with
        | .error _ => some "invalid_operational_mqtt_port"
        | .ok port => if port ≤ 0 then some "invalid_operational_mqtt_port" else none

/-- `validate_trust_state`, of a dictionary: what is wrong with it. -/
def validateTrustState (data : Dict) : Option String := trustStateError (normalizeTrustState data)

/-- `dict(data)`. -/
def dictOf : Value → Except Exc Dict
  | .dict kvs => .ok kvs
  | v =>
    match v.items? with
    | some items => Value.toEntries 0 [] items
    | none => .error ⟨.typeError, "'" ++ v.typeName ++ "' object is not iterable"⟩

/-- `x != y`, of two look-ups. -/
def differ : Option Value → Option Value → Bool
  | some v, some w => !Value.same v w
  | none, none => false
  | _, _ => true

/-- `normalized != data`.  A normalised dictionary has the very values of the other one, but for the two that are
set. -/
def trustStateChanged (data : Value) (normalized : Dict) : Bool :=
  match data with
  | .dict kvs => (Assoc.get? kvs "node_id").isSome &&
      ["node_id", "operational_mqtt_identity"].any fun key =>
        differ (Assoc.get? kvs key) (Assoc.get? normalized key)
  | _ => true

/-- `TrustStateStore`. -/
def trustStateStore : NormalizedStore Value Dict String Exc where
  decode := dictOf
  encode d := (Value.dict d).sortKeys
  normalize := normalizeTrustState
  check := validateTrustState
  refuse reason := ⟨.valueError, "cannot save invalid trust state: " ++ reason⟩
  changed := trustStateChanged

/-! ## Normal forms -/

section NormalForm

variable {d : Dict}

theorem set_of_get? {key : String} {v : Value} (h : Assoc.get? d key = some v) : d.set key v = d := by
  induction d with
  | nil => cases h
  | cons e d ih =>
    obtain ⟨k, w⟩ := e
    rw [Assoc.get?_cons] at h
    rw [Dict.set, Assoc.set]
    split at h
    · next hk =>
      obtain rfl := Option.some.inj h
      rw [if_pos hk, hk]
    · next hk =>
      rw [if_neg hk]
      exact congrArg _ (ih h)

/-- A state is normal if its node id is, and if the MQTT identity is the one derived from it. -/
def IsNormal (d : Dict) : Prop :=
  ∀ v, Assoc.get? d "node_id" = some v →
    v = .str (normalizeNodeId v) ∧
      Assoc.get? d "operational_mqtt_identity" = some (.str (deriveOperationalMqttIdentity v))

theorem normalizeTrustState_of_isNormal (h : IsNormal d) : normalizeTrustState d = d := by
  unfold normalizeTrustState
  rcases hid : Assoc.get? d "node_id" with _ | v
  · rfl
  · obtain ⟨hv, hidentity⟩ := h v hid
    have hget : d.get "node_id" = v := by rw [Dict.get, hid, Option.getD_some]
    have hset : d.set "node_id" (.str (normalizeNodeId v)) = d := set_of_get? (hv ▸ hid)
    simp only [Option.isSome_some, if_true, hget, hset]
    exact set_of_get? hidentity

theorem isNormal_normalizeTrustState (d : Dict) : IsNormal (normalizeTrustState d) := by
  intro v hv
  unfold normalizeTrustState at hv ⊢
  rcases hid : Assoc.get? d "node_id" with _ | w
  · rw [hid, Option.isSome_none, if_neg Bool.false_ne_true] at hv
    rw [hid] at hv
    cases hv
  · simp only [hid, Option.isSome_some, if_true, Dict.get_set_self] at hv ⊢
    have hne : "node_id" ≠ "operational_mqtt_identity" := by decide
    rw [Dict.set, Dict.set, Assoc.get?_set_of_ne _ _ hne, Assoc.get?_set_self] at hv
    obtain rfl := Option.some.inj hv
    refine ⟨?_, ?_⟩
    · rw [normalizeNodeId_normalizeNodeId]
    · rw [Dict.set, Dict.set, Assoc.get?_set_self]

theorem normalizeTrustState_normalizeTrustState (d : Dict) :
    normalizeTrustState (normalizeTrustState d) = normalizeTrustState d :=
  normalizeTrustState_of_isNormal (isNormal_normalizeTrustState d)

theorem distinct_normalizeTrustState (h : Assoc.Distinct d) : Assoc.Distinct (normalizeTrustState d) := by
  unfold normalizeTrustState
  split
  · exact (h.set _ _).set _ _
  · exact h

end NormalForm

/-! ## What is read back -/

section Reread

variable {d : Dict}

/-- A state as it is read back. -/
def reread (d : Dict) : Dict := Value.inKeyOrder (Value.sortKeysEntries d)

theorem get?_reread (h : Assoc.Distinct d) (key : String) :
    Assoc.get? (reread d) key = (Assoc.get? d key).map Value.sortKeys := Value.get?_sortKeys h key

theorem get_reread (h : Assoc.Distinct d) (key : String) : (reread d).get key = (d.get key).sortKeys :=
  Value.get_sortKeys h key

theorem isNormal_reread (hd : Assoc.Distinct d) (h : IsNormal d) : IsNormal (reread d) := by
  intro v hv
  rw [get?_reread hd] at hv
  obtain ⟨w, hw, rfl⟩ := Option.map_eq_some_iff.mp hv
  obtain ⟨hnormal, hidentity⟩ := h w hw
  have hfixed : w.sortKeys = w := by
    rw [hnormal]
    simp only [Value.sortKeys]
  rw [hfixed, get?_reread hd, hidentity]
  refine ⟨hnormal, ?_⟩
  simp only [Option.map_some, Value.sortKeys]

theorem isNonEmptyString_sortKeys (v : Value) : isNonEmptyString v.sortKeys = isNonEmptyString v := by
  cases v <;> simp [Value.sortKeys, isNonEmptyString]

theorem same_str_sortKeys (v : Value) (s : String) : Value.same v.sortKeys (.str s) = Value.same v (.str s) := by
  cases v <;> simp [Value.sortKeys, Value.same, Value.number?]

theorem isDict_sortKeys (v : Value) : v.sortKeys.isDict = v.isDict := by
  cases v <;> simp [Value.sortKeys, Value.isDict]

theorem toInt_sortKeys (v : Value) : v.sortKeys.toInt = v.toInt := by
  cases v <;> simp [Value.sortKeys, Value.toInt, Value.typeName]

/-- A text that is not blank. -/
theorem exists_of_isNonEmptyString {v : Value} (h : isNonEmptyString v = true) : ∃ s, v = .str s ∧ strip s ≠ "" := by
  cases v with
  | str s => exact ⟨s, rfl, by simpa [isNonEmptyString] using h⟩
  | _ => cases h

/-- **The check** does not see the order of the keys. -/
theorem trustStateError_reread (hd : Assoc.Distinct d) : trustStateError (reread d) = trustStateError d := by
  have hmissing : (fun key => (Assoc.get? (reread d) key).isNone) = fun key => (Assoc.get? d key).isNone := by
    funext key
    rw [get?_reread hd, Option.isNone_map]
  have hblank : (fun key => !isNonEmptyString ((reread d).get key)) = fun key => !isNonEmptyString (d.get key) := by
    funext key
    rw [get_reread hd, isNonEmptyString_sortKeys]
  unfold trustStateError
  rw [hmissing, hblank]
  rcases requiredTrustStateFields.find? fun key => (Assoc.get? d key).isNone with _ | key
  · rcases hstrings : stringFields.find? fun key => !isNonEmptyString (d.get key) with _ | key
    · have hid : isNonEmptyString (d.get "node_id") = true := by
        have h := List.find?_eq_none.mp hstrings "node_id" (by decide)
        simpa using h
      obtain ⟨s, hs, -⟩ := exists_of_isNonEmptyString hid
      have hfixed : (d.get "node_id").sortKeys = d.get "node_id" := by
        rw [hs]
        simp only [Value.sortKeys]
      dsimp only
      rw [get_reread hd, get_reread hd, get_reread hd, get_reread hd, hfixed, same_str_sortKeys, isDict_sortKeys,
        toInt_sortKeys]
    · rfl
  · rfl

/-- A text equals itself. -/
theorem differ_str (s : String) : differ (some (.str s)) (some (.str s)) = false := by
  simp [differ, Value.same]

theorem trustStateChanged_of_isNormal (h : IsNormal d) : trustStateChanged (.dict d) d = false := by
  unfold trustStateChanged
  dsimp only
  rcases hid : Assoc.get? d "node_id" with _ | v
  · rfl
  · obtain ⟨hv, hidentity⟩ := h v hid
    simp only [List.any_cons, List.any_nil, hid, hidentity, differ_str, Bool.or_false]
    rw [hv, differ_str]
    rfl

/-- **The store keeps its states.** -/
theorem faithful_trustStateStore : trustStateStore.Faithful Assoc.Distinct reread where
  wf_normalize _ hd := distinct_normalizeTrustState hd
  normalize_normalize := normalizeTrustState_normalizeTrustState
  decode_encode d _ := by
    show dictOf ((Value.dict d).sortKeys) = .ok (reread d)
    rw [Value.sortKeys]
    rfl
  normalize_reread d hd := normalizeTrustState_of_isNormal
    (isNormal_reread (distinct_normalizeTrustState hd) (isNormal_normalizeTrustState d))
  check_reread d hd := by
    have hdistinct := distinct_normalizeTrustState hd
    have hnormal := isNormal_normalizeTrustState d
    show trustStateError (normalizeTrustState (reread (normalizeTrustState d))) =
      trustStateError (normalizeTrustState (normalizeTrustState d))
    rw [normalizeTrustState_of_isNormal (isNormal_reread hdistinct hnormal), normalizeTrustState_of_isNormal hnormal,
      trustStateError_reread hdistinct]
  unchanged d hd := by
    show trustStateChanged ((Value.dict _).sortKeys) _ = false
    rw [Value.sortKeys]
    exact trustStateChanged_of_isNormal
      (isNormal_reread (distinct_normalizeTrustState hd) (isNormal_normalizeTrustState d))

end Reread

/-! ## Loading and saving -/

/-- What a state promises that has passed the check. -/
structure TrustState (d : Dict) : Prop where
  nodeId : ∃ u, isUuidV4 u = true ∧ d.get "node_id" = .str (String.ofList (nodePrefix ++ u.toList)) ∧
    d.get "operational_mqtt_identity" = .str ("hn_" ++ String.ofList (nodePrefix ++ u.toList))
  texts : ∀ key ∈ stringFields, ∃ s, d.get key = .str s ∧ strip s ≠ ""
  port : ∃ n, (d.get "operational_mqtt_port").toInt = .ok n ∧ 0 < n

theorem trustState_of_valid {d : Dict} (hnormal : normalizeTrustState d = d) (hvalid : validateTrustState d = none) :
    TrustState d := by
  rw [validateTrustState, hnormal] at hvalid
  unfold trustStateError at hvalid
  split at hvalid
  · cases hvalid
  split at hvalid
  · cases hvalid
  next hstrings =>
  have htexts : ∀ key ∈ stringFields, ∃ s, d.get key = .str s ∧ strip s ≠ "" := by
    intro key hkey
    have h := List.find?_eq_none.mp hstrings key hkey
    exact exists_of_isNonEmptyString (by simpa using h)
  split at hvalid
  · cases hvalid
  next hid =>
  split at hvalid
  · cases hvalid
  split at hvalid
  · cases hvalid
  have hport : ∃ n, (d.get "operational_mqtt_port").toInt = .ok n ∧ 0 < n := by
    rcases hint : (d.get "operational_mqtt_port").toInt with e | n
    · rw [hint] at hvalid
      cases hvalid
    · rw [hint] at hvalid
      by_cases hn : n ≤ 0
      · simp [hn] at hvalid
      · exact ⟨n, rfl, by omega⟩
  refine ⟨?_, htexts, hport⟩
  obtain ⟨u, hu, hvalue⟩ := isValidCanonicalNodeId_iff.mp (Bool.not_eq_false _ ▸ hid)
  obtain ⟨s, hs, -⟩ := htexts "node_id" (by decide)
  have hget : Assoc.get? d "node_id" = some (.str s) := by
    rcases hget : Assoc.get? d "node_id" with _ | v
    · rw [Dict.get, hget] at hs
      cases hs
    · rw [Dict.get, hget] at hs
      exact congrArg some hs
  have h := hnormal ▸ isNormal_normalizeTrustState d
  obtain ⟨hnode, hidentity⟩ := h _ hget
  rw [hs] at hvalue
  have hsu : s = String.ofList (nodePrefix ++ u.toList) := (Value.str.inj hnode).trans hvalue
  refine ⟨u, hu, by rw [hs, hsu], ?_⟩
  rw [Dict.get, hidentity, Option.getD_some, deriveOperationalMqttIdentity]
  rw [hvalue, if_neg fun hempty => ?_]
  have hempty := congrArg String.toList hempty
  rw [String.toList_ofList] at hempty
  cases hempty

/-- **The round trip**: a state that is saved is loaded, up to the order of its keys, with its node id normalised and
the MQTT identity derived from it; its node id is canonical, and loading leaves the file. -/
theorem trust_state_round_trip {data : Dict} {file : Value} (hdata : Assoc.Distinct data)
    (hsave : trustStateStore.save data = .ok file) :
    ∃ state, trustStateStore.load (some file) = .ok (some state, some file) ∧ TrustState state ∧
      (∀ key, Assoc.get? state key = (Assoc.get? (normalizeTrustState data) key).map Value.sortKeys) ∧
      ∀ key, key ≠ "node_id" → key ≠ "operational_mqtt_identity" →
        Assoc.get? state key = (Assoc.get? data key).map Value.sortKeys := by
  have hload := faithful_trustStateStore.load_save hdata hsave
  obtain ⟨hnormal, hvalid⟩ := faithful_trustStateStore.load_sound hload
  have hlookup := get?_reread (distinct_normalizeTrustState hdata)
  refine ⟨_, hload, trustState_of_valid hnormal hvalid, hlookup, fun key hid hidentity => ?_⟩
  refine (hlookup key).trans (congrArg (Option.map Value.sortKeys) ?_)
  unfold normalizeTrustState
  split
  · rw [Dict.set, Dict.set, Assoc.get?_set_of_ne _ _ hidentity, Assoc.get?_set_of_ne _ _ hid]
  · rfl

/-- A state of an approval; the node id is given without its prefix. -/
def approvedState : Dict := [
  ("node_id", .str "3F2504E0-4F89-41D3-9A0C-0305E82C3301"), ("node_name", .str "kitchen"),
  ("node_type", .str "ai-node"), ("paired_core_id", .str "core-1"), ("core_api_endpoint", .str "http://core.local"),
  ("node_trust_token", .str "secret"), ("initial_baseline_policy", .dict []), ("baseline_policy_version", .str "1.0"),
  ("operational_mqtt_identity", .str ""), ("operational_mqtt_token", .str "token"),
  ("operational_mqtt_host", .str "10.0.0.2"), ("operational_mqtt_port", .int 1883),
  ("bootstrap_mqtt_host", .str "10.0.0.2"), ("registration_timestamp", .str "2026-01-01T00:00:00+00:00")]

theorem distinct_approvedState : Assoc.Distinct approvedState := by
  show (Assoc.keys approvedState).Nodup
  decide

theorem save_approvedState : ∃ file, trustStateStore.save approvedState = .ok file :=
  ⟨_, NormalizedStore.save_eq_ok.mpr ⟨by decide +kernel, rfl⟩⟩

theorem trust_state_round_trip_approved :
    ∃ file state, trustStateStore.save approvedState = .ok file ∧
      trustStateStore.load (some file) = .ok (some state, some file) ∧ TrustState state := by
  obtain ⟨file, hsave⟩ := save_approvedState
  obtain ⟨state, hload, hstate, -⟩ := trust_state_round_trip distinct_approvedState hsave
  exact ⟨file, state, hsave, hload, hstate⟩

/-! ## Files -/

theorem distinct_toEntries {items : List Value} {i : ℕ} {d kvs : Dict} (hd : Assoc.Distinct d)
    (h : Value.toEntries i d items = .ok kvs) : Assoc.Distinct kvs := by
  induction items generalizing i d with
  | nil =>
    obtain rfl := Except.ok.inj h
    exact hd
  | cons x items ih =>
    obtain ⟨⟨key, v⟩, -, h⟩ := bind_eq_ok.mp h
    exact ih (hd.set key v) h

theorem distinct_dictOf {v : Value} {d : Dict} (hv : ∀ kvs, v = .dict kvs → Assoc.Distinct kvs)
    (h : dictOf v = .ok d) : Assoc.Distinct d := by
  cases v with
  | dict kvs =>
    obtain rfl := Except.ok.inj h
    exact hv kvs rfl
  | list items => exact distinct_toEntries Assoc.distinct_nil h
  | str s =>
    unfold dictOf at h
    dsimp only at h
    split at h
    · exact distinct_toEntries Assoc.distinct_nil h
    · cases h
  | _ => cases h

/-- The keys of a state that is loaded are distinct. -/
theorem distinct_of_loaded {file left : Option Value} {state : Dict}
    (hwf : ∀ v ∈ file, ∀ d, trustStateStore.decode v = .ok d → Assoc.Distinct d)
    (hload : trustStateStore.load file = .ok (some state, left)) : Assoc.Distinct state := by
  rcases faithful_trustStateStore.load_cases hload with ⟨hnone, -⟩ | ⟨v, d, rfl, hdecode, -, hresult, -⟩
  · cases hnone
  · obtain rfl := Option.some.inj hresult
    exact distinct_normalizeTrustState (hwf v rfl d hdecode)

end Onboarding
end HexeAiNode
