import HexeAiNode.Library.Run
import HexeAiNode.Onboarding.TrustState

/-!
# The node identity and the start of the node

A node has two files that name it: the identity file and, once it is trusted, the trust state.  A node that starts
loads the trust state and loads the identity, which is created if there is none, from the trust state if that is
there; it refuses to start if the two files name different nodes.

`restart_keeps_node_id` says that a node that has started once keeps its name and its trust through every restart.
-/

namespace HexeAiNode
namespace Onboarding

open Py

/-! ## The identity -/

/-- `REQUIRED_NODE_IDENTITY_FIELDS`. -/
def requiredNodeIdentityFields : List String := ["node_id", "created_at"]

/-- What `NodeIdentityStore` makes of an identity before it checks it. -/
def normalizeNodeIdentity (identity : Dict) : Dict :=
  (identity.set "node_id" (.str (normalizeNodeId (identity.get "node_id")))).set "id_format" (.str "uuidv4")

/-- `validate_node_identity`, of a dictionary: what is wrong with it. -/
def validateNodeIdentity (data : Dict) : Option String :=
  match requiredNodeIdentityFields.find? fun key => (Assoc.get? data key).isNone with
  | some key => some ("missing_" ++ key)
  | none =>
    let nodeId := normalizeNodeId (data.get "node_id")
    if isNonEmptyString (.str nodeId) = false then some "invalid_node_id"
    else if strip ((data.get "id_format").orElse (.str "uuidv4")).toStr ≠ "uuidv4" then some "invalid_id_format"
    else if isValidCanonicalNodeId (.str nodeId) = false then some "invalid_node_id"
    else if isNonEmptyString (data.get "created_at") = false then some "invalid_created_at"
    else none

/-- `{**data}`. -/
def unpacked : Value → Except Exc Dict
  | .dict kvs => .ok kvs
  | v => .error ⟨.typeError, "'" ++ v.typeName ++ "' object is not a mapping"⟩

/-- `normalized != data`: the entries that are not set are the same values. -/
def nodeIdentityChanged (data : Value) (normalized : Dict) : Bool :=
  match data with
  | .dict kvs => ["node_id", "id_format"].any fun key => differ (Assoc.get? kvs key) (Assoc.get? normalized key)
  | _ => true

/-- `NodeIdentityStore`. -/
def nodeIdentityStore : NormalizedStore Value Dict String Exc where
  decode := unpacked
  encode d := (Value.dict d).sortKeys
  normalize := normalizeNodeIdentity
  check := validateNodeIdentity
  refuse reason := ⟨.valueError, "cannot save invalid node identity: " ++ reason⟩
  changed := nodeIdentityChanged

section Identity

variable {d : Dict}

/-- An identity is normal if its node id is and if its format is the only one there is. -/
structure IsNormalIdentity (d : Dict) : Prop where
  nodeId : ∃ n, Assoc.get? d "node_id" = some (.str n) ∧ normalizeNodeId (.str n) = n
  idFormat : Assoc.get? d "id_format" = some (.str "uuidv4")

theorem IsNormalIdentity.normalize (h : IsNormalIdentity d) : normalizeNodeIdentity d = d := by
  obtain ⟨n, hn, hfixed⟩ := h.nodeId
  have hget : d.get "node_id" = .str n := by rw [Dict.get, hn, Option.getD_some]
  rw [normalizeNodeIdentity, hget, hfixed, set_of_get? hn]
  exact set_of_get? h.idFormat

theorem isNormalIdentity_normalizeNodeIdentity (d : Dict) : IsNormalIdentity (normalizeNodeIdentity d) where
  nodeId := by
    have hne : "node_id" ≠ "id_format" := by decide
    refine ⟨normalizeNodeId (d.get "node_id"), ?_, normalizeNodeId_normalizeNodeId _⟩
    rw [normalizeNodeIdentity, Dict.set, Dict.set, Assoc.get?_set_of_ne _ _ hne, Assoc.get?_set_self]
  idFormat := by rw [normalizeNodeIdentity, Dict.set, Assoc.get?_set_self]

theorem IsNormalIdentity.reread (hd : Assoc.Distinct d) (h : IsNormalIdentity d) : IsNormalIdentity (reread d) where
  nodeId := by
    obtain ⟨n, hn, hfixed⟩ := h.nodeId
    refine ⟨n, ?_, hfixed⟩
    rw [get?_reread hd, hn]
    simp only [Option.map_some, Value.sortKeys]
  idFormat := by
    rw [get?_reread hd, h.idFormat]
    simp only [Option.map_some, Value.sortKeys]

theorem distinct_normalizeNodeIdentity (h : Assoc.Distinct d) : Assoc.Distinct (normalizeNodeIdentity d) :=
  (h.set _ _).set _ _

theorem validateNodeIdentity_reread (hd : Assoc.Distinct d) (h : IsNormalIdentity d) :
    validateNodeIdentity (reread d) = validateNodeIdentity d := by
  have hmissing : (fun key => (Assoc.get? (reread d) key).isNone) = fun key => (Assoc.get? d key).isNone := by
    funext key
    rw [get?_reread hd, Option.isNone_map]
  obtain ⟨n, hn, -⟩ := h.nodeId
  have hid : (d.get "node_id").sortKeys = d.get "node_id" := by
    rw [Dict.get, hn, Option.getD_some]
    simp only [Value.sortKeys]
  have hformat : (d.get "id_format").sortKeys = d.get "id_format" := by
    rw [Dict.get, h.idFormat, Option.getD_some]
    simp only [Value.sortKeys]
  unfold validateNodeIdentity
  rw [hmissing, get_reread hd, get_reread hd, get_reread hd, hid, hformat, isNonEmptyString_sortKeys]

theorem nodeIdentityChanged_of_isNormal (h : IsNormalIdentity d) : nodeIdentityChanged (.dict d) d = false := by
  obtain ⟨n, hn, -⟩ := h.nodeId
  unfold nodeIdentityChanged
  simp only [List.any_cons, List.any_nil, hn, h.idFormat, differ_str, Bool.or_false]

/-- **The store keeps its identities.** -/
theorem faithful_nodeIdentityStore : nodeIdentityStore.Faithful Assoc.Distinct reread where
  wf_normalize _ hd := distinct_normalizeNodeIdentity hd
  normalize_normalize d := (isNormalIdentity_normalizeNodeIdentity d).normalize
  decode_encode d _ := by
    show unpacked ((Value.dict d).sortKeys) = .ok (reread d)
    rw [Value.sortKeys]
    rfl
  normalize_reread d hd :=
    ((isNormalIdentity_normalizeNodeIdentity d).reread (distinct_normalizeNodeIdentity hd)).normalize
  check_reread d hd :=
    validateNodeIdentity_reread (distinct_normalizeNodeIdentity hd) (isNormalIdentity_normalizeNodeIdentity d)
  unchanged d hd := by
    show nodeIdentityChanged ((Value.dict _).sortKeys) _ = false
    rw [Value.sortKeys]
    exact nodeIdentityChanged_of_isNormal
      ((isNormalIdentity_normalizeNodeIdentity d).reread (distinct_normalizeNodeIdentity hd))

end Identity

/-! ## Creating an identity -/

/-- What a start reads: a fresh UUID and the clock. -/
structure Fresh where
  uuid : String
  now : String

/-- `create_node_identity`, or the identity of `create_from_node_id`. -/
def nodeIdentityOf (nodeId : String) (fresh : Fresh) : Dict :=
  [("node_id", .str nodeId), ("created_at", .str fresh.now), ("id_format", .str "uuidv4")]

/-- `create` and `create_from_node_id`, once the id is normalised: the identity and its file. -/
def createNodeIdentity (nodeId : String) (fresh : Fresh) : Except Exc (Dict × Option Value) :=
  (fun file => (nodeIdentityOf nodeId fresh, some file)) <$> nodeIdentityStore.save (nodeIdentityOf nodeId fresh)

/-- `load_or_create`.  An id to migrate from that is given is not blank. -/
def loadOrCreateIdentity (migrationNodeId : Option String) (fresh : Fresh) (file : Option Value) :
    Except Exc (Dict × Option Value) := do
  let (existing, left) ← nodeIdentityStore.load file
  match existing, migrationNodeId with
  | some identity, _ => .ok (identity, left)
  | none, some nodeId =>
    if isNonEmptyString (.str (normalizeNodeId (.str nodeId))) then
      createNodeIdentity (normalizeNodeId (.str nodeId)) fresh
    else .error ⟨.valueError, "node_id is required"⟩
  | none, none => createNodeIdentity (normalizeNodeId (.str fresh.uuid)) fresh

/-! ## The start -/

/-- The two files. -/
structure NodeFiles where
  trust : Option Value
  identity : Option Value

/-- `_is_loopback_host`. -/
def isLoopbackHost (host : String) : Bool := ["127.0.0.1", "localhost", "::1"].contains (lower (strip host))

/-- The trust state with the broker of the bootstrap message, if its own is this machine and the other is not. -/
def correctedHost (state : Dict) : Option Dict :=
  let operational := (state.get "operational_mqtt_host").normalizeString
  let bootstrap := (state.get "bootstrap_mqtt_host").normalizeString
  if isLoopbackHost operational = true ∧ bootstrap ≠ "" ∧ isLoopbackHost bootstrap = false then
    some (state.set "operational_mqtt_host" (.str bootstrap))
  else none

/-- The trust state of a start, and its file. -/
def startTrust (file : Option Value) : Except Exc (Option Dict × Option Value) := do
  let (loaded, left) ← trustStateStore.load file
  match loaded.bind correctedHost with
  | some state => (fun written => (some state, some written)) <$> trustStateStore.save state
  | none => .ok (loaded, left)

/-- The name a file gives the node. -/
def namedIn (state : Dict) : String := (state.get "node_id").normalizeString

/-- How a node has started: its name, its trust state and its files. -/
structure Started where
  nodeId : String
  trust : Option Dict
  files : NodeFiles

/-- The start of the node in `run`, as far as its names go: `none` is the exit because of a mismatch. -/
def startNode (fresh : Fresh) (files : NodeFiles) : Except Exc (Option Started) := do
  let (trust, trustFile) ← startTrust files.trust
  let migrationNodeId := (trust.map namedIn).filter (· ≠ "")
  let (identity, identityFile) ← loadOrCreateIdentity migrationNodeId fresh files.identity
  match trust with
  | some state =>
    if namedIn state ≠ "" ∧ namedIn state ≠ namedIn identity then .ok none
    else .ok (some ⟨namedIn identity, trust, ⟨trustFile, identityFile⟩⟩)
  | none => .ok (some ⟨namedIn identity, trust, ⟨trustFile, identityFile⟩⟩)

/-! ## Restarts -/

section Restart

variable {fresh : Fresh} {file left : Option Value} {trust : Option Dict} {identity : Dict}

/-- A file of JSON: the keys of a dictionary are distinct. -/
def IsJson (file : Option Value) : Prop := ∀ kvs, file = some (.dict kvs) → Assoc.Distinct kvs

theorem wf_decode_trust (hfile : IsJson file) :
    ∀ v ∈ file, ∀ d, trustStateStore.decode v = .ok d → Assoc.Distinct d := by
  rintro v rfl d hdecode
  exact distinct_dictOf (fun kvs hkvs => hfile kvs (congrArg some hkvs)) hdecode

theorem wf_decode_identity (hfile : IsJson file) :
    ∀ v ∈ file, ∀ d, nodeIdentityStore.decode v = .ok d → Assoc.Distinct d := by
  rintro v rfl d hdecode
  cases v with
  | dict kvs =>
    obtain rfl := Except.ok.inj hdecode
    exact hfile kvs rfl
  | _ => cases hdecode

/-- A text field reads the same in a state that is read back. -/
theorem normalizeString_reread {d : Dict} {key s : String} (hd : Assoc.Distinct d) (h : d.get key = .str s) :
    ((reread d).get key).normalizeString = (d.get key).normalizeString := by
  rw [get_reread hd, h]
  simp only [Value.sortKeys]

theorem correctedHost_reread {state : Dict} (hd : Assoc.Distinct state) (h : TrustState state)
    (hnone : correctedHost state = none) : correctedHost (reread state) = none := by
  obtain ⟨s, hs, -⟩ := h.texts "operational_mqtt_host" (by decide)
  obtain ⟨t, ht, -⟩ := h.texts "bootstrap_mqtt_host" (by decide)
  unfold correctedHost at hnone ⊢
  rw [normalizeString_reread hd hs, normalizeString_reread hd ht]
  dsimp only at hnone ⊢
  split at hnone
  · cases hnone
  · next hcond => rw [if_neg hcond]

theorem namedIn_reread {state : Dict} (hd : Assoc.Distinct state) (h : TrustState state) :
    namedIn (reread state) = namedIn state := by
  obtain ⟨u, -, hu, -⟩ := h.nodeId
  exact normalizeString_reread hd hu

/-- A state whose broker has been corrected needs no correction when it is loaded again. -/
theorem correctedHost_saved {state corrected : Dict} (hd : Assoc.Distinct state)
    (hnormal : normalizeTrustState state = state) (h : TrustState state)
    (hcorrected : correctedHost state = some corrected) :
    Assoc.Distinct corrected ∧ correctedHost (reread (normalizeTrustState corrected)) = none ∧
      namedIn (reread (normalizeTrustState corrected)) = namedIn corrected := by
  obtain ⟨t, ht, -⟩ := h.texts "bootstrap_mqtt_host" (by decide)
  obtain ⟨u, -, hu, -⟩ := h.nodeId
  unfold correctedHost at hcorrected
  dsimp only at hcorrected
  split at hcorrected
  swap
  · cases hcorrected
  next hcond =>
  obtain rfl := Option.some.inj hcorrected
  generalize hb : (state.get "bootstrap_mqtt_host").normalizeString = b at hcond
  have hdc : Assoc.Distinct (state.set "operational_mqtt_host" (.str b)) := hd.set _ _
  have hfixed : normalizeTrustState (state.set "operational_mqtt_host" (.str b)) =
      state.set "operational_mqtt_host" (.str b) := by
    refine normalizeTrustState_of_isNormal fun v hv => ?_
    rw [Dict.set, Assoc.get?_set_of_ne _ _ (by decide)] at hv
    obtain ⟨hnode, hidentity⟩ := (hnormal ▸ isNormal_normalizeTrustState state) v hv
    exact ⟨hnode, by rw [Dict.set, Assoc.get?_set_of_ne _ _ (by decide), hidentity]⟩
  have hother : ∀ key, key ≠ "operational_mqtt_host" →
      (state.set "operational_mqtt_host" (.str b)).get key = state.get key := fun key hkey =>
    Dict.get_set_of_ne _ _ hkey
  have hoperational : ((reread (state.set "operational_mqtt_host" (.str b))).get
      "operational_mqtt_host").normalizeString = b := by
    rw [normalizeString_reread hdc (Dict.get_set_self _ _ _), Dict.get_set_self, Value.normalizeString_str, ← hb,
      Value.strip_normalizeString]
  rw [hfixed]
  refine ⟨hdc, ?_, ?_⟩
  · unfold correctedHost
    dsimp only
    rw [hoperational]
    exact if_neg fun hloop => by
      rw [hcond.2.2] at hloop
      exact Bool.false_ne_true hloop.1
  · exact normalizeString_reread hdc ((hother "node_id" (by decide)).trans hu)

theorem startTrust_of_uncorrected {loaded : Option Dict} (hload : trustStateStore.load file = .ok (loaded, left))
    (hnone : ∀ state, loaded = some state → correctedHost state = none) : startTrust file = .ok (loaded, left) := by
  have hbind : loaded.bind correctedHost = none := by
    rcases loaded with _ | state
    · rfl
    · rw [Option.bind_some, hnone state rfl]
  unfold startTrust
  rw [hload]
  simp only [bind, Except.bind, hbind]

/-- **The trust state of a restart** is that of the start. -/
theorem startTrust_settles (hfile : IsJson file) (hstart : startTrust file = .ok (trust, left)) :
    ∃ trust', startTrust left = .ok (trust', left) ∧ trust'.map namedIn = trust.map namedIn := by
  obtain ⟨⟨loaded, left'⟩, hload, hstart⟩ := bind_eq_ok.mp hstart
  have hwf := wf_decode_trust hfile
  dsimp only at hstart
  rcases loaded with _ | state
  · obtain ⟨rfl, rfl⟩ := Prod.mk.inj (Except.ok.inj hstart)
    have hagain : trustStateStore.load left' = .ok (none, left') := by
      rcases faithful_trustStateStore.load_load hwf hload with h | h <;> exact h
    exact ⟨none, startTrust_of_uncorrected hagain fun _ hnone => (by cases hnone), rfl⟩
  · obtain ⟨hnormal, hvalid⟩ := faithful_trustStateStore.load_sound hload
    have hstate := trustState_of_valid hnormal hvalid
    have hd := distinct_of_loaded hwf hload
    rcases hcorrected : correctedHost state with _ | corrected
    · rw [Option.bind_some, hcorrected] at hstart
      obtain ⟨rfl, rfl⟩ := Prod.mk.inj (Except.ok.inj hstart)
      rcases faithful_trustStateStore.load_load hwf hload with h | h
      · refine ⟨some state, startTrust_of_uncorrected h fun s hs => ?_, rfl⟩
        obtain rfl := Option.some.inj hs
        exact hcorrected
      · refine ⟨some (reread state), startTrust_of_uncorrected h fun s hs => ?_,
          congrArg some (namedIn_reread hd hstate)⟩
        obtain rfl := Option.some.inj hs
        exact correctedHost_reread hd hstate hcorrected
    · rw [Option.bind_some, hcorrected] at hstart
      dsimp only at hstart
      rcases hsave : trustStateStore.save corrected with e | written
      · rw [hsave] at hstart
        cases hstart
      · rw [hsave] at hstart
        obtain ⟨rfl, rfl⟩ := Prod.mk.inj (Except.ok.inj hstart)
        obtain ⟨hdc, hnone, hnamed⟩ := correctedHost_saved hd hnormal hstate hcorrected
        have h := faithful_trustStateStore.load_save hdc hsave
        refine ⟨some (reread (normalizeTrustState corrected)), startTrust_of_uncorrected h fun s hs => ?_,
          congrArg some hnamed⟩
        obtain rfl := Option.some.inj hs
        exact hnone

theorem loadOrCreate_of_existing {migration : Option String}
    (h : nodeIdentityStore.load file = .ok (some identity, left)) :
    loadOrCreateIdentity migration fresh file = .ok (identity, left) := by
  unfold loadOrCreateIdentity
  rw [h]
  rfl

/-- A node without an identity file and without a trust state takes a fresh id. -/
theorem loadOrCreate_of_missing (fresh : Fresh) :
    loadOrCreateIdentity none fresh none = createNodeIdentity (normalizeNodeId (.str fresh.uuid)) fresh := by
  have hload : nodeIdentityStore.load none = .ok (none, none) := by rw [NormalizedStore.load]
  unfold loadOrCreateIdentity
  rw [hload]
  simp only [bind, Except.bind]

/-- An identity that is created is loaded again, under the same name. -/
theorem createNodeIdentity_spec {value : Value} (h : createNodeIdentity (normalizeNodeId value) fresh =
      .ok (identity, left)) :
    ∃ identity', nodeIdentityStore.load left = .ok (some identity', left) ∧ namedIn identity' = namedIn identity := by
  have hd : Assoc.Distinct (nodeIdentityOf (normalizeNodeId value) fresh) := by
    simp [Assoc.Distinct, Assoc.keys, nodeIdentityOf]
  unfold createNodeIdentity at h
  rcases hsave : nodeIdentityStore.save (nodeIdentityOf (normalizeNodeId value) fresh) with e | written
  · rw [hsave] at h
    cases h
  · rw [hsave] at h
    obtain ⟨rfl, rfl⟩ := Prod.mk.inj (Except.ok.inj h)
    refine ⟨_, faithful_nodeIdentityStore.load_save hd hsave, ?_⟩
    have hnormal : IsNormalIdentity (nodeIdentityOf (normalizeNodeId value) fresh) :=
      ⟨⟨_, rfl, normalizeNodeId_normalizeNodeId value⟩, rfl⟩
    show namedIn (reread (normalizeNodeIdentity _)) = _
    rw [hnormal.normalize]
    exact normalizeString_reread hd rfl

/-- **The identity of a restart** is that of the start, whatever it reads. -/
theorem loadOrCreateIdentity_settles {migration : Option String} (hfile : IsJson file)
    (hstart : loadOrCreateIdentity migration fresh file = .ok (identity, left)) :
    ∃ identity', namedIn identity' = namedIn identity ∧
      ∀ migration' fresh', loadOrCreateIdentity migration' fresh' left = .ok (identity', left) := by
  have hload : ∃ identity', nodeIdentityStore.load left = .ok (some identity', left) ∧
      namedIn identity' = namedIn identity := by
    obtain ⟨⟨existing, left'⟩, hload, hstart⟩ := bind_eq_ok.mp hstart
    dsimp only at hstart
    rcases existing with _ | existing
    · rcases migration with _ | nodeId
      · exact createNodeIdentity_spec hstart
      · dsimp only at hstart
        split at hstart
        · exact createNodeIdentity_spec hstart
        · cases hstart
    · obtain ⟨rfl, rfl⟩ := Prod.mk.inj (Except.ok.inj hstart)
      rcases faithful_nodeIdentityStore.load_load (wf_decode_identity hfile) hload with h | h
      · exact ⟨_, h, rfl⟩
      · refine ⟨_, h, ?_⟩
        rcases faithful_nodeIdentityStore.load_cases hload with ⟨hnone, -⟩ | ⟨v, d, rfl, hdecode, -, hresult, -⟩
        · cases hnone
        · obtain rfl := Option.some.inj hresult
          obtain ⟨n, hn, -⟩ := (isNormalIdentity_normalizeNodeIdentity d).nodeId
          have hget : (normalizeNodeIdentity d).get "node_id" = .str n := by rw [Dict.get, hn, Option.getD_some]
          exact normalizeString_reread
            (distinct_normalizeNodeIdentity (wf_decode_identity hfile v rfl d hdecode)) hget
  obtain ⟨identity', hload, hnamed⟩ := hload
  exact ⟨identity', hnamed, fun _ _ => loadOrCreate_of_existing hload⟩

end Restart

/-! ## Runs of restarts -/

/-- The files after one more start. -/
def restart (files : NodeFiles) (fresh : Fresh) : NodeFiles :=
  match startNode fresh files with
  | .ok (some started) => started.files
  | _ => files

/-- What a start that has succeeded leaves to the next one. -/
theorem startNode_again {fresh : Fresh} {files : NodeFiles} {started : Started} (htrust : IsJson files.trust)
    (hidentity : IsJson files.identity) (hstart : startNode fresh files = .ok (some started)) (fresh' : Fresh) :
    ∃ again, startNode fresh' started.files = .ok (some again) ∧ again.nodeId = started.nodeId ∧
      again.files = started.files ∧ again.trust.map namedIn = started.trust.map namedIn := by
  obtain ⟨⟨trust, trustFile⟩, hst, hstart⟩ := bind_eq_ok.mp hstart
  obtain ⟨⟨identity, identityFile⟩, hid, hstart⟩ := bind_eq_ok.mp hstart
  obtain ⟨trust', htrust', hnamed⟩ := startTrust_settles htrust hst
  obtain ⟨identity', hsame, hid'⟩ := loadOrCreateIdentity_settles hidentity hid
  dsimp only at hstart
  have hfiles : started = ⟨namedIn identity, trust, ⟨trustFile, identityFile⟩⟩ := by
    rcases trust with _ | state
    · exact (Option.some.inj (Except.ok.inj hstart)).symm
    · dsimp only at hstart
      split at hstart
      · cases Except.ok.inj hstart
      · exact (Option.some.inj (Except.ok.inj hstart)).symm
  subst hfiles
  refine ⟨⟨namedIn identity', trust', ⟨trustFile, identityFile⟩⟩, ?_, hsame, rfl, hnamed⟩
  unfold startNode
  dsimp only
  rw [htrust']
  simp only [bind, Except.bind]
  rw [hid']
  dsimp only
  rcases trust with _ | state
  · rcases trust' with _ | state'
    · rfl
    · cases hnamed
  · rcases trust' with _ | state'
    · cases hnamed
    · have hstate : namedIn state' = namedIn state := Option.some.inj hnamed
      dsimp only at hstart ⊢
      split at hstart
      · cases Except.ok.inj hstart
      · next hcond =>
        rw [hstate, hsame, if_neg hcond]

/-- **A node keeps its name**: once a start has succeeded, every later one succeeds, whatever ids and times it reads.
It gives the node the same name, finds the trust state if and only if the first one did, under the same name, and
leaves the files as they are. -/
theorem restart_keeps_node_id {fresh : Fresh} {files : NodeFiles} {started : Started} (htrust : IsJson files.trust)
    (hidentity : IsJson files.identity) (hstart : startNode fresh files = .ok (some started))
    (restarts : List Fresh) (fresh' : Fresh) :
    Run.after restart started.files restarts = started.files ∧
      ∃ again, startNode fresh' (Run.after restart started.files restarts) = .ok (some again) ∧
        again.nodeId = started.nodeId ∧ again.files = started.files ∧
        again.trust.map namedIn = started.trust.map namedIn := by
  have hkept : Run.after restart started.files restarts = started.files := by
    refine Run.after_keeps (I := fun files => files = started.files) restarts rfl fun files next hfiles => ?_
    obtain ⟨again, hagain, -, hsame, -⟩ := startNode_again htrust hidentity hstart next
    rw [hfiles, restart, hagain]
    exact hsame
  rw [hkept]
  exact ⟨rfl, startNode_again htrust hidentity hstart fresh'⟩

/-- The first start of a node that has no files. -/
def firstStart : Fresh := ⟨"3f2504e0-4f89-41d3-9a0c-0305e82c3301", "2026-01-01T00:00:00+00:00"⟩

theorem restart_keeps_node_id_first :
    ∃ started, startNode firstStart ⟨none, none⟩ = .ok (some started) ∧
      started.nodeId = "node-3f2504e0-4f89-41d3-9a0c-0305e82c3301" ∧
      ∀ restarts, Run.after restart started.files restarts = started.files := by
  obtain ⟨file, hsave⟩ : ∃ file,
      nodeIdentityStore.save (nodeIdentityOf (normalizeNodeId (.str firstStart.uuid)) firstStart) = .ok file :=
    ⟨_, NormalizedStore.save_eq_ok.mpr ⟨by decide +kernel, rfl⟩⟩
  have hcreate : loadOrCreateIdentity none firstStart none =
      .ok (nodeIdentityOf (normalizeNodeId (.str firstStart.uuid)) firstStart, some file) := by
    rw [loadOrCreate_of_missing, createNodeIdentity, hsave]
    rfl
  have htrust : startTrust none = .ok (none, none) := rfl
  have hstart : startNode firstStart ⟨none, none⟩ = .ok (some
      ⟨namedIn (nodeIdentityOf (normalizeNodeId (.str firstStart.uuid)) firstStart), none, ⟨none, some file⟩⟩) := by
    unfold startNode
    rw [htrust]
    simp only [bind, Except.bind, Option.map_none, Option.filter_none]
    rw [hcreate]
  have hname : namedIn (nodeIdentityOf (normalizeNodeId (.str firstStart.uuid)) firstStart) =
      "node-3f2504e0-4f89-41d3-9a0c-0305e82c3301" := by
    decide +kernel
  refine ⟨_, hstart, hname, fun restarts => ?_⟩
  have hjson : IsJson none := fun kvs hkvs => by cases hkvs
  exact (restart_keeps_node_id hjson hjson hstart restarts firstStart).1

end Onboarding
end HexeAiNode
